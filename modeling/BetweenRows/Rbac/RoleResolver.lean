import BetweenRows.Graph.BfsDepth

/-!
# Role resolution (`role_resolver.rs`)

The role tables and the breadth-first searches `role_resolver.rs` runs over
them. Every search loads all `role_inheritance` rows, groups them into a
`parent_map` (child ↦ parents) or `child_map` (parent ↦ children) in row
order, and walks it with a `HashSet` of visited ids and a `VecDeque`
worklist. They differ only in what they seed, what they accepts, whether they
stop early and whether they cap the depth, so each is `Bfs.loop` applied to
its own `Bfs.Search`:

* `detectCycle`: from the proposed parent, upward, stopping as soon as the
  proposed child shows up among a popped role's parents;
* `checkInheritanceDepth` / `checkInheritanceDepthDown`: from one role,
  upward / downward, returning the largest popped depth;
* `resolveUserRoles`: from the user's active direct roles at depth 1,
  upward through active roles only, expanding a role only while its depth
  is below `MAX_INHERITANCE_DEPTH`.

Ids are an arbitrary type with decidable equality (the code's `Uuid`). A
table is the list of its rows in the order `find().all()` returns them; a
`HashMap` keyed by the primary key is a lookup in that list.

The main result here is `detectCycle_iff`: the cycle check answers exactly
whether the proposed child is the proposed parent or one of its ancestors.
The fuel each search is given (`bfsFuel`) is above the loop's measure, so it
never cuts a search short (`Bfs.loop_succ_eq`).
-/

namespace BetweenRows

open Relation

def maxInheritanceDepth : Nat := 10

variable {ι : Type} [DecidableEq ι]

/-! ## Tables -/

/-- A `role` row, with the columns role resolution reads. -/
structure Role (ι : Type) where
  id : ι
  name : String
  isActive : Bool
  deriving DecidableEq, Repr

/-- A `role_member` row: `userId` is a direct member of `roleId`. -/
structure RoleMember (ι : Type) where
  roleId : ι
  userId : ι
  deriving DecidableEq, Repr

/-- A `role_inheritance` row: `childRoleId` inherits from `parentRoleId`. -/
structure RoleInheritance (ι : Type) where
  parentRoleId : ι
  childRoleId : ι
  deriving DecidableEq, Repr

structure RoleStore (ι : Type) where
  roles : List (Role ι)
  members : List (RoleMember ι)
  inheritance : List (RoleInheritance ι)
  deriving DecidableEq, Repr

/-- `parent_map.get(&r)`: the parents of `r`, in row order. -/
def parentMap (edges : List (RoleInheritance ι)) (r : ι) : List ι :=
  (edges.filter (·.childRoleId = r)).map (·.parentRoleId)

/-- `child_map.get(&r)`: the children of `r`, in row order. -/
def childMap (edges : List (RoleInheritance ι)) (r : ι) : List ι :=
  (edges.filter (·.parentRoleId = r)).map (·.childRoleId)

/-- The child-to-parent relation the rows present: `c` inherits from `p`. -/
def Inherits (edges : List (RoleInheritance ι)) (c p : ι) : Prop :=
  ⟨p, c⟩ ∈ edges

instance (edges : List (RoleInheritance ι)) : DecidableRel (Inherits edges) :=
  fun c p => inferInstanceAs (Decidable (⟨p, c⟩ ∈ edges))

/-- `all_roles.get(&r)` is an active role (`id` is the primary key). -/
def roleActive (roles : List (Role ι)) (r : ι) : Bool :=
  (roles.find? (·.id = r)).any (·.isActive)

/-- A role with this id exists (`role::Entity::find_by_id(..).one(..)`). -/
def roleExists (roles : List (Role ι)) (r : ι) : Bool :=
  roles.any (·.id = r)

/-- Fuel for a search over `edges` seeded with `n` queue entries: above the
loop's measure, which is at most `2 · |edges| + n`. -/
def bfsFuel (edges : List (RoleInheritance ι)) (n : Nat) : Nat :=
  2 * edges.length + n + 1

theorem mem_parentMap {edges : List (RoleInheritance ι)} {c p : ι} :
    p ∈ parentMap edges c ↔ Inherits edges c p := by
  simp only [parentMap, List.mem_map, List.mem_filter, decide_eq_true_eq, Inherits]
  constructor
  · rintro ⟨e, ⟨he, rfl⟩, rfl⟩
    exact he
  · intro h
    exact ⟨_, ⟨h, rfl⟩, rfl⟩

theorem mem_childMap {edges : List (RoleInheritance ι)} {c p : ι} :
    c ∈ childMap edges p ↔ Inherits edges c p := by
  simp only [childMap, List.mem_map, List.mem_filter, decide_eq_true_eq, Inherits]
  constructor
  · rintro ⟨e, ⟨he, rfl⟩, rfl⟩
    exact he
  · intro h
    exact ⟨_, ⟨h, rfl⟩, rfl⟩

/-- Every parent a `parent_map` lookup can return is some row's parent. -/
theorem parentMap_subset (edges : List (RoleInheritance ι)) :
    ∀ x, ∀ y ∈ parentMap edges x, y ∈ edges.map (·.parentRoleId) := by
  intro x y hy
  obtain ⟨e, he, rfl⟩ := List.mem_map.mp hy
  exact List.mem_map_of_mem (List.mem_filter.mp he).1

/-- Every child a `child_map` lookup can return is some row's child. -/
theorem childMap_subset (edges : List (RoleInheritance ι)) :
    ∀ x, ∀ y ∈ childMap edges x, y ∈ edges.map (·.childRoleId) := by
  intro x y hy
  obtain ⟨e, he, rfl⟩ := List.mem_map.mp hy
  exact List.mem_map_of_mem (List.mem_filter.mp he).1

theorem bfsFuel_gt_measure {U : List ι} {edges : List (RoleInheritance ι)}
    (hU : U.length ≤ edges.length) (vis : List ι) (q : List (ι × Nat)) :
    Bfs.measure U vis q < bfsFuel edges q.length := by
  have := List.length_filter_le (fun z => decide (z ∉ vis)) U
  simp only [Bfs.measure, bfsFuel]
  omega

/-! ## The searches -/

/-- The upward search of `detect_cycle`: stop at `childId`, accepts all. -/
def cycleSearch (edges : List (RoleInheritance ι)) (childId : ι) : Bfs.Search ι where
  next := parentMap edges
  stop := (· = childId)
  accepts := fun _ => true
  expand := fun _ => true

/-- `detect_cycle(parent_id, child_id)`: would the edge `child → parent`
close a cycle? -/
def detectCycle (edges : List (RoleInheritance ι)) (parentId childId : ι) : Bool :=
  if parentId = childId then true
  else (Bfs.loop (cycleSearch edges childId) (bfsFuel edges 1)
    [parentId] [(parentId, 0)] 0).isNone

def depthSearch (next : ι → List ι) : Bfs.Search ι where
  next := next
  stop := fun _ => false
  accepts := fun _ => true
  expand := fun _ => true

/-- `check_inheritance_depth(role_id)`: the largest depth popped by the
upward search from `role_id`. -/
def checkInheritanceDepth (edges : List (RoleInheritance ι)) (roleId : ι) : Nat :=
  match Bfs.loop (depthSearch (parentMap edges)) (bfsFuel edges 1) [roleId] [(roleId, 0)] 0 with
  | some (_, m) => m
  | none => 0

/-- `check_inheritance_depth_down(role_id)`: the same, downward. -/
def checkInheritanceDepthDown (edges : List (RoleInheritance ι)) (roleId : ι) : Nat :=
  match Bfs.loop (depthSearch (childMap edges)) (bfsFuel edges 1) [roleId] [(roleId, 0)] 0 with
  | some (_, m) => m
  | none => 0

/-- The upward search of `resolve_user_roles`: active roles only, and a role
popped at depth `≥ MAX_INHERITANCE_DEPTH` is not expanded. -/
def userRoleSearch (db : RoleStore ι) : Bfs.Search ι where
  next := parentMap db.inheritance
  stop := fun _ => false
  accepts := roleActive db.roles
  expand := fun d => decide (d < maxInheritanceDepth)

/-- `resolve_user_roles(user_id)`: the `result` vector, which receives a
role exactly when it enters `visited`. The seeding `for` loop is the inner
scan over the direct roles, pushing them at depth `0 + 1`. -/
def resolveUserRoles (db : RoleStore ι) (userId : ι) : List ι :=
  let direct := (db.members.filter (·.userId = userId)).map (·.roleId)
  if direct.isEmpty then []
  else
    match Bfs.scan (userRoleSearch db) 0 direct [] [] with
    | none => []
    | some (vis, q) =>
        match Bfs.loop (userRoleSearch db) (bfsFuel db.inheritance q.length) vis q 0 with
        | some (vis', _) => vis'
        | none => []

/-! ## The cycle path of the error message -/

/-- `all_roles.get(id).cloned().unwrap_or_else(|| id.to_string())`. -/
def roleName [ToString ι] (roles : List (Role ι)) (r : ι) : String :=
  match roles.find? (·.id = r) with
  | some role => role.name
  | none => toString r

/-- The `while node != parent_id` walk of `build_cycle_path` back along the
came-from links, pushing each predecessor. -/
def walkCameFrom (cameFrom : List (ι × ι)) (parentId : ι) : Nat → ι → List ι → List ι
  | 0, _, path => path
  | f + 1, node, path =>
      if node = parentId then path
      else
        match cameFrom.lookup node with
        | some prev => walkCameFrom cameFrom parentId f prev (path ++ [prev])
        | none => path

/-- The inner loop of `build_cycle_path` over the parents of `current`:
`.inl path` is the early return with the reconstructed cycle (child first),
`.inr` the updated came-from map and queue. -/
def cyclePathScan (parentId childId current : ι) :
    List ι → List (ι × ι) → List ι → List ι ⊕ (List (ι × ι) × List ι)
  | [], cameFrom, q => .inr (cameFrom, q)
  | pid :: rest, cameFrom, q =>
      if pid = childId then
        .inl ((walkCameFrom cameFrom parentId (cameFrom.length + 1) current
          [childId, current] ++ [childId]).reverse)
      else if (cameFrom.lookup pid).isNone then
        cyclePathScan parentId childId current rest (cameFrom ++ [(pid, current)]) (q ++ [pid])
      else cyclePathScan parentId childId current rest cameFrom q

def cyclePathLoop (edges : List (RoleInheritance ι)) (parentId childId : ι) :
    Nat → List (ι × ι) → List ι → Option (List ι)
  | 0, _, _ => none
  | _ + 1, _, [] => none
  | f + 1, cameFrom, current :: q =>
      match cyclePathScan parentId childId current (parentMap edges current) cameFrom q with
      | .inl path => some path
      | .inr (cameFrom', q') => cyclePathLoop edges parentId childId f cameFrom' q'

/-- `build_cycle_path(parent_id, child_id)`: the role names along the cycle
the new edge would close, joined by arrows; without a path found, the
two-step fallback `child → parent → child`. -/
def buildCyclePath [ToString ι] (db : RoleStore ι) (parentId childId : ι) : String :=
  match cyclePathLoop db.inheritance parentId childId (bfsFuel db.inheritance 1) [] [parentId] with
  | some path => " → ".intercalate (path.map (roleName db.roles))
  | none =>
      let childName := roleName db.roles childId
      childName ++ " → " ++ roleName db.roles parentId ++ " → " ++ childName

/-! ## The cycle check -/

theorem step_cycleSearch {edges : List (RoleInheritance ι)} {childId x y : ι} :
    Bfs.Step (cycleSearch edges childId) x y ↔ Inherits edges x y := by
  simp [Bfs.Step, cycleSearch, mem_parentMap]

theorem reached_cycleSearch {edges : List (RoleInheritance ι)} {childId p z : ι} :
    Bfs.Reached (cycleSearch edges childId) [p] z ↔ ReflTransGen (Inherits edges) p z := by
  have hrel : Bfs.Step (cycleSearch edges childId) = Inherits edges := by
    funext x y
    exact propext step_cycleSearch
  simp [Bfs.Reached, hrel]

/-- `detect_cycle(parent, child)` is true exactly when `child` is `parent`
or one of its ancestors: then and only then would `child → parent` close a
cycle. -/
theorem detectCycle_iff (edges : List (RoleInheritance ι)) (parentId childId : ι) :
    detectCycle edges parentId childId = true ↔
      ReflTransGen (Inherits edges) parentId childId := by
  unfold detectCycle
  by_cases hpc : parentId = childId
  · subst hpc
    simpa using ReflTransGen.refl
  · rw [if_neg hpc]
    have hans : Bfs.Answer (cycleSearch edges childId) [parentId]
        (Bfs.loop (cycleSearch edges childId) (bfsFuel edges 1) [parentId] [(parentId, 0)] 0) :=
      Bfs.loop_complete (parentMap_subset edges) (fun _ => rfl)
        (Bfs.inv_seeds (cycleSearch edges childId) [parentId] 0)
        (bfsFuel_gt_measure (by simp) _ _)
    revert hans
    cases Bfs.loop (cycleSearch edges childId) (bfsFuel edges 1) [parentId] [(parentId, 0)] 0 with
    | none =>
        -- stopped: a reached role has `childId` among its parents
        rintro ⟨z, y, hz, hy, hstop⟩
        have hyc : y = childId := by simpa [cycleSearch] using hstop
        subst hyc
        simp only [Option.isNone_none, true_iff]
        exact (reached_cycleSearch.mp hz).tail (mem_parentMap.mp hy)
    | some r =>
        -- ran dry: no reached role has `childId` as a parent
        rintro ⟨-, hno⟩
        simp only [Option.isNone_some, Bool.false_eq_true, false_iff]
        intro hreach
        rcases ReflTransGen.cases_tail hreach with heq | ⟨z, hz, hzc⟩
        · exact hpc heq.symm
        · have := hno z (reached_cycleSearch.mpr hz) childId (mem_parentMap.mpr hzc)
          simp [cycleSearch] at this

/-! ## The roles of a user -/

theorem step_userRoleSearch {db : RoleStore ι} {x y : ι} :
    Bfs.Step (userRoleSearch db) x y ↔ Inherits db.inheritance x y ∧ roleActive db.roles y = true := by
  simp [Bfs.Step, userRoleSearch, mem_parentMap]

/-- The search `resolve_user_roles` runs: seeded with the active direct roles
at depth 1 and capped at `MAX_INHERITANCE_DEPTH`, it returns each role once,
and exactly the roles within `MAX_INHERITANCE_DEPTH - 1` steps of a seed. -/
theorem resolveUserRoles_run (db : RoleStore ι) (userId : ι) :
    ∃ seeds : List ι, (∀ s, s ∈ seeds ↔ s ∈ (db.members.filter (·.userId = userId)).map (·.roleId) ∧
        roleActive db.roles s = true) ∧
      (resolveUserRoles db userId).Nodup ∧
      ∀ r, r ∈ resolveUserRoles db userId ↔
        Bfs.Within (userRoleSearch db) seeds (maxInheritanceDepth - 1) r := by
  unfold resolveUserRoles
  dsimp only
  split
  · rename_i hempty
    refine ⟨[], fun s => ?_, List.nodup_nil, fun r => ?_⟩
    · simp [List.isEmpty_iff.mp hempty]
    · refine ⟨fun h => absurd h List.not_mem_nil, fun h => ?_⟩
      obtain ⟨_, hs, -⟩ := h.exists_seed
      exact absurd hs List.not_mem_nil
  · rcases hscan : Bfs.scan (userRoleSearch db) 0
        ((db.members.filter (·.userId = userId)).map (·.roleId)) [] [] with _ | ⟨vis, q⟩
    · obtain ⟨y, -, hy⟩ := Bfs.scan_eq_none_iff.mp hscan
      cases hy
    · obtain ⟨new, hvis, hq, hnew, hnd, hys⟩ := Bfs.scan_eq_some hscan
      rw [hscan]
      subst vis q
      -- the seeds are the active direct roles
      have hseed : ∀ s, s ∈ new ↔ s ∈ (db.members.filter (·.userId = userId)).map (·.roleId) ∧
          roleActive db.roles s = true := by
        intro s
        refine ⟨fun hs => ⟨(hnew s hs).1, (hnew s hs).2.1⟩, fun ⟨hs, ha⟩ => ?_⟩
        simpa using (hys s hs).2 ha
      have hI : Bfs.DepthInv (userRoleSearch db) new 1 maxInheritanceDepth ([] ++ new)
          ([] ++ new.map (·, 0 + 1)) := by
        have hseeds : Bfs.DepthInv (userRoleSearch db) new 1 maxInheritanceDepth new (new.map (·, 1)) :=
          Bfs.depthInv_seeds (by decide)
        simpa using hseeds
      have hfuel : Bfs.measure (db.inheritance.map (·.parentRoleId)) ([] ++ new)
          ([] ++ new.map (·, 0 + 1)) < bfsFuel db.inheritance ([] ++ new.map (·, 0 + 1)).length :=
        bfsFuel_gt_measure (by simp) _ _
      obtain ⟨vis', m', hloop, hmem⟩ := Bfs.loop_capped (parentMap_subset db.inheritance)
        (by decide) (fun _ => rfl) (fun _ => rfl) hI hfuel
      dsimp only
      rw [hloop]
      exact ⟨new, hseed, Bfs.loop_nodup _ (by simpa using hnd) hloop, hmem⟩

theorem nodup_resolveUserRoles (db : RoleStore ι) (userId : ι) : (resolveUserRoles db userId).Nodup :=
  (resolveUserRoles_run db userId).choose_spec.2.1

theorem mem_resolveUserRoles {db : RoleStore ι} {userId r : ι} :
    r ∈ resolveUserRoles db userId ↔
      ∃ d ∈ (db.members.filter (·.userId = userId)).map (·.roleId), roleActive db.roles d = true ∧
        Bfs.Within (userRoleSearch db) [d] (maxInheritanceDepth - 1) r := by
  obtain ⟨seeds, hseed, -, hmem⟩ := resolveUserRoles_run db userId
  rw [hmem, Bfs.Within.iff_exists_seed]
  constructor
  · rintro ⟨s, hs, hw⟩
    exact ⟨s, ((hseed s).mp hs).1, ((hseed s).mp hs).2, hw⟩
  · rintro ⟨s, hs, ha, hw⟩
    exact ⟨s, (hseed s).mpr ⟨hs, ha⟩, hw⟩

/-- `resolve_user_roles` returns, each once, exactly the roles that an active
direct role of the user reaches by at most `MAX_INHERITANCE_DEPTH - 1`
inheritance edges through active roles, in every role store, cycles
included: the direct roles enter the search at depth 1, and a role at depth
`MAX_INHERITANCE_DEPTH` is not expanded. -/
theorem resolveUserRoles_spec (db : RoleStore ι) (userId : ι) :
    (resolveUserRoles db userId).Nodup ∧
      ∀ r, r ∈ resolveUserRoles db userId ↔
        ∃ d ∈ (db.members.filter (·.userId = userId)).map (·.roleId), roleActive db.roles d = true ∧
          Bfs.Within (userRoleSearch db) [d] (maxInheritanceDepth - 1) r :=
  ⟨nodup_resolveUserRoles db userId, fun _ => mem_resolveUserRoles⟩

/-! ## What the roles of a user depend on -/

/-- The roles the search from `userId`'s direct roles can ever look at: a
direct role or an ancestor of one, active or not. -/
def AboveDirectRoles (db : RoleStore ι) (userId x : ι) : Prop :=
  ∃ d ∈ (db.members.filter (·.userId = userId)).map (·.roleId), ReflTransGen (Inherits db.inheritance) d x

/-- Every role the search returns is a direct role or above one. -/
theorem aboveDirectRoles_of_mem {db : RoleStore ι} {userId r : ι} (h : r ∈ resolveUserRoles db userId) :
    AboveDirectRoles db userId r := by
  obtain ⟨d, hd, -, hw⟩ := mem_resolveUserRoles.mp h
  obtain ⟨s, hs, hpath⟩ := hw.reached
  rw [List.mem_singleton.mp hs] at hpath
  exact ⟨d, hd, hpath.lift id fun _ _ hstep => (step_userRoleSearch.mp hstep).1⟩

/-- `resolve_user_roles` reads only the user's own memberships and, above
them, the parent lists and activity of roles: two stores that agree there
resolve the user to the same list. -/
theorem resolveUserRoles_congr {db db' : RoleStore ι} {userId : ι}
    (hdirect : (db'.members.filter (·.userId = userId)).map (·.roleId) =
      (db.members.filter (·.userId = userId)).map (·.roleId))
    (hnext : ∀ x, AboveDirectRoles db userId x → parentMap db'.inheritance x = parentMap db.inheritance x)
    (hactive : ∀ x, AboveDirectRoles db userId x → roleActive db'.roles x = roleActive db.roles x) :
    resolveUserRoles db' userId = resolveUserRoles db userId := by
  have hagree : Bfs.AgreeOn (userRoleSearch db) (userRoleSearch db') (AboveDirectRoles db userId) :=
    { closed := fun _ ⟨d, hd, hx⟩ _ hy => ⟨d, hd, hx.tail (mem_parentMap.mp hy)⟩
      next := hnext
      stop := fun _ _ => rfl
      accepts := hactive
      expand := rfl }
  have hseeds : ∀ y ∈ (db.members.filter (·.userId = userId)).map (·.roleId), AboveDirectRoles db userId y :=
    fun y hy => ⟨y, hy, .refl⟩
  unfold resolveUserRoles
  dsimp only
  rw [hdirect, Bfs.scan_congr hagree hseeds]
  split
  · rfl
  · rcases hscan : Bfs.scan (userRoleSearch db) 0
        ((db.members.filter (·.userId = userId)).map (·.roleId)) [] [] with _ | ⟨vis, q⟩
    · rw [hscan]
    · -- the queue holds direct roles only
      obtain ⟨new, -, hq, hnew, -, -⟩ := Bfs.scan_eq_some hscan
      have hqA : ∀ p ∈ q, AboveDirectRoles db userId p.1 := by
        intro p hp
        rw [hq, List.nil_append] at hp
        obtain ⟨y, hy, rfl⟩ := List.mem_map.mp hp
        exact hseeds y (hnew y hy).1
      have hf : Bfs.measure (db.inheritance.map (·.parentRoleId)) vis q < bfsFuel db.inheritance q.length :=
        bfsFuel_gt_measure (by simp) vis q
      have hf' : Bfs.measure (db'.inheritance.map (·.parentRoleId)) vis q <
          bfsFuel db'.inheritance q.length :=
        bfsFuel_gt_measure (by simp) vis q
      rw [hscan]
      dsimp only
      rw [Bfs.loop_congr_fuel hagree (parentMap_subset db.inheritance) (parentMap_subset db'.inheritance)
        hqA hf hf']

end BetweenRows

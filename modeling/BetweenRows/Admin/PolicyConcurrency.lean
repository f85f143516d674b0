import BetweenRows.Admin.PolicyHandlers

/-!
# Interleaved policy requests

Concurrent admin requests interleave at the boundary the handlers have: a
request's reads and checks run outside any transaction, and its
transaction runs later, against whatever the database holds by then. A
`Sys` is the database and one `Handler` per request; `Sys.advance` moves one
request one phase on, and a schedule (any list of request indices) is an
interleaving. Transactions are atomic here, the most the database can
give them.

On a serial schedule the requests are served one after another
(`run_serialFrom`), and served so they keep the version history sound
(`serial_historyOk`). Interleaved, the version a transaction writes is the
one read before it, which another request may have moved on: two updates
carrying the same version both commit, and the history records that
version twice (`racingUpdatesRun`).
-/

namespace BetweenRows

/-- A request's progress. -/
inductive Handler where
  | pending (req : PolicyRequest)
  | read (r : ReadState)
  | done (result : Except ApiErr Unit)
  deriving DecidableEq, Repr

structure Sys where
  db : AdminDb
  handlers : List Handler

def Sys.start (db : AdminDb) (reqs : List PolicyRequest) : Sys :=
  ⟨db, reqs.map .pending⟩

/-- Request `i` takes its next phase: its reads, or its transaction. -/
def Sys.advance (validateExpression : String → Bool → Except String Unit) (s : Sys) (i : Nat) :
    Sys :=
  match s.handlers[i]? with
  | some (.pending req) =>
      match readPhase validateExpression s.db req with
      | .ok r => { s with handlers := s.handlers.set i (.read r) }
      | .error e => { s with handlers := s.handlers.set i (.done (.error e)) }
  | some (.read r) =>
      match txnPhase s.db r with
      | .ok db' => { db := db', handlers := s.handlers.set i (.done (.ok ())) }
      -- the transaction rolls back
      | .error e => { s with handlers := s.handlers.set i (.done (.error e)) }
  | _ => s

def Sys.run (validateExpression : String → Bool → Except String Unit) (s : Sys)
    (schedule : List Nat) : Sys :=
  schedule.foldl (Sys.advance validateExpression) s

/-- Requests served one after another. -/
def serveAll (validateExpression : String → Bool → Except String Unit) (db : AdminDb) :
    List PolicyRequest → AdminDb
  | [] => db
  | req :: reqs =>
      match serve validateExpression db req with
      | .ok db' => serveAll validateExpression db' reqs
      | .error _ => serveAll validateExpression db reqs

variable {validateExpression : String → Bool → Except String Unit}

@[simp] theorem Sys.run_nil (s : Sys) : s.run validateExpression [] = s := rfl

@[simp] theorem Sys.run_cons (s : Sys) (i : Nat) (is : List Nat) :
    s.run validateExpression (i :: is) = (s.advance validateExpression i).run validateExpression is :=
  rfl

/-- Requests served one after another keep the version history sound. -/
theorem serveAll_historyOk {db : AdminDb} (hok : HistoryOk db) (reqs : List PolicyRequest) :
    HistoryOk (serveAll validateExpression db reqs) := by
  induction reqs generalizing db with
  | nil => exact hok
  | cons req reqs ih =>
      simp only [serveAll]
      split
      · rename_i db' h
        exact ih (serve_historyOk hok h)
      · exact ih hok

/-! ## Serial schedules -/

theorem Sys.advance_pending {s : Sys} {i : Nat} {req : PolicyRequest}
    (h : s.handlers[i]? = some (.pending req)) :
    s.advance validateExpression i =
      match readPhase validateExpression s.db req with
      | .ok r => ⟨s.db, s.handlers.set i (.read r)⟩
      | .error e => ⟨s.db, s.handlers.set i (.done (.error e))⟩ := by
  rw [Sys.advance, h]

/-- Taken twice in a row, a pending request is served as if alone. -/
theorem advance_advance {s : Sys} {i : Nat} {req : PolicyRequest}
    (h : s.handlers[i]? = some (.pending req)) :
    (s.advance validateExpression i).advance validateExpression i =
      match serve validateExpression s.db req with
      | .ok db' => ⟨db', s.handlers.set i (.done (.ok ()))⟩
      | .error e => ⟨s.db, s.handlers.set i (.done (.error e))⟩ := by
  have hi : i < s.handlers.length := (List.getElem?_eq_some_iff.mp h).1
  rw [Sys.advance_pending h]
  cases hr : readPhase validateExpression s.db req with
  | error e =>
      -- refused by its reads, the request is done and the second step idles
      simp [Sys.advance, List.getElem?_set_self hi, serve, hr]
  | ok r =>
      cases ht : txnPhase s.db r with
      | error e => simp [Sys.advance, List.getElem?_set_self hi, serve, hr, ht]
      | ok db' => simp [Sys.advance, List.getElem?_set_self hi, serve, hr, ht]

/-- The schedule that runs requests `k`, …, `k + n - 1` one after another,
each to completion. -/
def serialFrom (k : Nat) : Nat → List Nat
  | 0 => []
  | n + 1 => k :: k :: serialFrom (k + 1) n

/-- On a serial schedule the requests are served one after another. The
induction is on the pending requests; the handlers before them are done. -/
theorem run_serialFrom (reqs : List PolicyRequest) :
    ∀ (s : Sys) (pre : List Handler), s.handlers = pre ++ reqs.map .pending →
      (s.run validateExpression (serialFrom pre.length reqs.length)).db =
        serveAll validateExpression s.db reqs := by
  induction reqs with
  | nil => intro s pre _; rfl
  | cons req reqs ih =>
      intro s pre hs
      have hget : s.handlers[pre.length]? = some (.pending req) := by simp [hs]
      -- the handlers after request `pre.length` finished with `res`
      have hset : ∀ res, s.handlers.set pre.length (.done res) =
          (pre ++ [.done res]) ++ reqs.map .pending := by
        intro res
        simp [hs, List.set_append_right]
      simp only [serialFrom, List.length_cons, Sys.run_cons, advance_advance hget, serveAll]
      cases serve validateExpression s.db req with
      | ok db' => simpa using ih ⟨db', _⟩ _ (hset (.ok ()))
      | error e => simpa using ih ⟨s.db, _⟩ _ (hset (.error e))

/-- Served on a serial schedule, requests keep the version history sound:
each commit writes the stored version plus one and records it once. -/
theorem serial_historyOk {db : AdminDb} (hok : HistoryOk db) (reqs : List PolicyRequest) :
    HistoryOk ((Sys.start db reqs).run validateExpression (serialFrom 0 reqs.length)).db := by
  have hrun := @run_serialFrom validateExpression reqs (Sys.start db reqs) [] rfl
  rw [List.length_nil] at hrun
  rw [hrun]
  exact serveAll_historyOk hok reqs

/-! ## Two updates on one version -/

def racingPolicy : Policy where
  id := 1
  name := "orders_deny"
  policyType := .columnDeny
  targets := [⟨["public"], ["orders"], some ["ssn"]⟩]
  definition := none
  decisionFunctionId := none
  isEnabled := true
  version := 1

/-- The database after `create_policy` of `racingPolicy`. -/
def racingDb : AdminDb where
  policies := [racingPolicy]
  assignments := []
  versions := [⟨1, 1, ⟨"orders_deny", .columnDeny, [⟨["public"], ["orders"], some ["ssn"]⟩], none,
    none, []⟩, "create"⟩]
  dataSources := [10]
  roles := []
  decisionFunctions := []
  nextId := 100

/-- Two admins rename the policy, both editing version 1. -/
def racingSys : Sys :=
  ⟨racingDb,
    [.pending (.updatePolicy 1 { name := some "orders_deny_a", version := 1 }),
     .pending (.updatePolicy 1 { name := some "orders_deny_b", version := 1 })]⟩

/-- Both reads run before either transaction: the history starts sound,
both updates succeed, the second overwrites the first at the same version
2, and the history records version 2 twice. -/
theorem racingUpdatesRun :
    HistoryOk racingDb ∧
      ∀ validateExpression : String → Bool → Except String Unit,
        (racingSys.run validateExpression [0, 1, 0, 1]).handlers =
            [.done (.ok ()), .done (.ok ())] ∧
          ((racingSys.run validateExpression [0, 1, 0, 1]).db.versions.map fun r =>
            (r.policyId, r.version)) = [(1, 1), (1, 2), (1, 2)] ∧
          ((racingSys.run validateExpression [0, 1, 0, 1]).db.findPolicy 1).map
            (fun p => (p.name, p.version)) = some ("orders_deny_b", 2) ∧
          ¬ HistoryOk (racingSys.run validateExpression [0, 1, 0, 1]).db := by
  refine ⟨⟨by decide, by decide, by decide⟩, fun ve => ⟨rfl, rfl, rfl, fun hok => ?_⟩⟩
  have hnd := hok.versions_nodup
  rw [show ((racingSys.run ve [0, 1, 0, 1]).db.versions.map fun r => (r.policyId, r.version)) =
    [(1, 1), (1, 2), (1, 2)] from rfl] at hnd
  exact absurd hnd (by decide)

end BetweenRows

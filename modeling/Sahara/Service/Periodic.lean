import Sahara.Resource

/-! `sahara/service/periodic.py`: the three periodic tasks of `_make_periodic_tasks` and the
configuration they read.  A task runs against an environment that gives the answer of each call to
the conductor, `ops`, `trusts`, `job_manager` and the proxy domain, the reading of
`timeutils.utcnow()` when the task reaches a cluster, and `edp.JOB_STATUSES_TERMINATED`.
`context.set_ctx` is an event of the run, and the request context of the thread after a run is the
one the run installed last. -/

namespace Sahara.Service

/-- The options the tasks read: `min_transient_cluster_active_time` of `periodic_opts`, with its
default, and `use_identity_api_v3`. -/
structure Conf where
  minTransientClusterActiveTime : Int := 30
  useIdentityApiV3 : Bool
  deriving DecidableEq, Repr

/-- A request context; `context.get_admin_context()` returns an administrator's. -/
structure Context where
  isAdmin : Bool
  deriving DecidableEq, Repr

/-- `context.get_admin_context()`. -/
def getAdminContext : Context := ⟨true⟩

/-- A user of the proxy domain. -/
structure User where
  id : String
  name : String
  deriving DecidableEq, Repr

/-- The calls of the periodic tasks, each with the arguments that tell it apart. -/
inductive Call where
  | setCtx (ctx : Option Context)
  | updateJobStatuses
  | clusterGetAll (status : String)
  | jobExecutionCount (clusterId : String)
  | utcnow
  | useOsAdminAuthToken (clusterId : String)
  | terminateCluster (clusterId : String)
  | clusterUpdate (clusterId : String) (status : String)
  | proxyDomainUsersList
  | jobExecutionGet (jeId : String)
  | proxyUserDelete (userId : String)
  deriving DecidableEq, Repr

/-- What a call returns when it does not raise. -/
def Call.Answer : Call → Type
  | .clusterGetAll .. => List Cluster
  | .jobExecutionCount .. => Nat
  | .utcnow => Instant
  | .proxyDomainUsersList => List User
  | .jobExecutionGet .. => Option JobExecution
  | _ => Unit

/-- The world the tasks run in.  `answer` gives the answer of every collaborator call, or what it
raises; `utcnow c` is the time `timeutils.utcnow()` reads when the task reaches cluster `c`.  The
code of `ops.terminate_cluster` and `job_manager.update_job_statuses` is not in this repository, so
the world also says what they leave in the conductor when they return: `terminatedStatus id` is the
status of the cluster `id` after its termination, or none when the cluster is gone, and
`refreshedJob id` is whether the job execution `id` has ended and its record after the refresh, or
none when the refresh leaves it as it was. -/
structure Env where
  conf : Conf
  answer : (c : Call) → Except PyError c.Answer
  utcnow : Cluster → Instant
  jobStatusesTerminated : List String
  terminatedStatus : String → Option String
  refreshedJob : String → Option (Bool × JobExecution)

/-- The request context of the thread after the events `evs`, starting from `ctx`. -/
def ctxAfter (ctx : Option Context) : List Call → Option Context
  | [] => ctx
  | .setCtx c :: evs => ctxAfter c evs
  | _ :: evs => ctxAfter ctx evs

namespace SaharaPeriodicTasks

open Run

variable (env : Env)

/-- A call to a collaborator. -/
def ask (c : Call) : Run Call c.Answer := invoke c (env.answer c)

/-- `context.set_ctx(ctx)`. -/
def setCtx (ctx : Option Context) : Run Call Unit := invoke (.setCtx ctx) (.ok ())

/-- `update_job_statuses`. -/
def updateJobStatuses : Run Call Unit := do
  let ctx := getAdminContext
  setCtx (some ctx)
  ask env .updateJobStatuses
  setCtx none

/-- What the body of the loop of `terminate_unneeded_clusters` does to a cluster that passed its
three guards: terminate it with the administrator's trust, a failure of the termination being
logged and dropped, or else mark it as awaiting termination. -/
def terminateEligible (cluster : Cluster) : Run Call Unit :=
  if env.conf.useIdentityApiV3 then do
    ask env (.useOsAdminAuthToken cluster.id)
    try ask env (.terminateCluster cluster.id)
    catch _ => pure ()
  else if cluster.status != "AwaitingTermination" then
    ask env (.clusterUpdate cluster.id "AwaitingTermination")
  else pure ()

/-- The body of the loop of `terminate_unneeded_clusters`, on one cluster. -/
def terminateUnneededCluster (cluster : Cluster) : Run Call Unit :=
  if !cluster.isTransient then pure () else do
  let jc : Nat ← ask env (.jobExecutionCount cluster.id)
  if jc > 0 then pure () else do
  let currentTime ← invoke .utcnow (.ok (env.utcnow cluster))
  let spacing := deltaSeconds cluster.updatedAt currentTime
  if spacing < env.conf.minTransientClusterActiveTime then pure () else
  terminateEligible env cluster

/-- `terminate_unneeded_clusters`. -/
def terminateUnneededClusters : Run Call Unit := do
  let ctx := getAdminContext
  setCtx (some ctx)
  (← ask env (.clusterGetAll "Active")).forM (terminateUnneededCluster env)
  setCtx none

/-- The body of the loop of `check_for_zombie_proxy_users`, on one user. -/
def checkForZombieProxyUser (user : User) : Run Call Unit :=
  if startswith user.name "job_" then do
    let jeId := sliceFrom user.name 4
    let je : Option JobExecution ← ask env (.jobExecutionGet jeId)
    if je.isNone || je.any (fun je => je.info.status ∈ env.jobStatusesTerminated) then
      ask env (.proxyUserDelete user.id)
    else pure ()
  else pure ()

/-- `check_for_zombie_proxy_users`. -/
def checkForZombieProxyUsers : Run Call Unit := do
  let ctx := getAdminContext
  setCtx (some ctx)
  (← ask env .proxyDomainUsersList).forM (checkForZombieProxyUser env)
  setCtx none

end SaharaPeriodicTasks

/-! ### The frame the three tasks share -/

section Frame

open Run SaharaPeriodicTasks

variable (env : Env)

theorem ask_bind_of_ok {β : Type} {c : Call} {a : c.Answer} {f : c.Answer → Run Call β}
    (h : env.answer c = .ok a) : ask env c >>= f = ⟨c :: (f a).events, (f a).result⟩ := by
  simp [ask, h]

/-- The frame of the three tasks: install the administrator's context, run the body, and clear the
context when the body returns. -/
def framed (x : Run Call Unit) : Run Call Unit :=
  ⟨.setCtx (some getAdminContext) :: (x.events ++
    match x.result with | .ok _ => [.setCtx none] | .error _ => []), x.result⟩

theorem updateJobStatuses_framed : updateJobStatuses env = framed (ask env .updateJobStatuses) := by
  simp only [updateJobStatuses, framed, setCtx, ask, invoke_bind, bind_invoke_ok]
  cases env.answer .updateJobStatuses <;> rfl

theorem terminateUnneededClusters_framed : terminateUnneededClusters env = framed
    (ask env (.clusterGetAll "Active") >>= fun cs => cs.forM (terminateUnneededCluster env)) := by
  simp only [terminateUnneededClusters, framed, setCtx, ask, invoke_bind, bind_invoke_ok]
  cases env.answer (.clusterGetAll "Active") <;> rfl

theorem checkForZombieProxyUsers_framed : checkForZombieProxyUsers env =
    framed (ask env .proxyDomainUsersList >>= fun us => us.forM (checkForZombieProxyUser env)) := by
  simp only [checkForZombieProxyUsers, framed, setCtx, ask, invoke_bind, bind_invoke_ok]
  cases env.answer .proxyDomainUsersList <;> rfl

theorem filterMap_framed {β : Type} (p : Call → Option β) (hp : ∀ ctx, p (.setCtx ctx) = none)
    (x : Run Call Unit) : (framed x).events.filterMap p = x.events.filterMap p := by
  simp only [framed, List.filterMap_cons, hp, List.filterMap_append]
  split <;> simp [hp]

theorem ctxAfter_of_no_setCtx {ctx : Option Context} {evs : List Call}
    (h : ∀ ev ∈ evs, ∀ c, ev ≠ .setCtx c) : ctxAfter ctx evs = ctx := by
  induction evs with
  | nil => rfl
  | cons ev evs ih =>
    cases ev with
    | setCtx c => exact absurd rfl (h _ (List.mem_cons_self _ _) c)
    | _ => exact ih fun ev' hm => h ev' (List.mem_cons_of_mem _ hm)

theorem ctxAfter_append (ctx : Option Context) (evs evs' : List Call) :
    ctxAfter ctx (evs ++ evs') = ctxAfter (ctxAfter ctx evs) evs' := by
  induction evs generalizing ctx with
  | nil => rfl
  | cons ev evs ih => cases ev <;> exact ih _

/-- After a framed body that installs no context itself, the thread holds no context when the body
returned, and the administrator's when it raised. -/
theorem ctxAfter_framed {x : Run Call Unit} (hx : ∀ ev ∈ x.events, ∀ c, ev ≠ .setCtx c)
    (ctx : Option Context) :
    ctxAfter ctx (framed x).events = match x.result with
      | .ok _ => none
      | .error _ => some getAdminContext := by
  simp only [framed, ctxAfter, ctxAfter_append, ctxAfter_of_no_setCtx hx]
  split <;> rfl

end Frame

end Sahara.Service

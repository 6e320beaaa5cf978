import Mathlib.Data.List.Nodup
import Sahara.Service.Reconciliation

/-! The state the periodic tasks reconcile: the conductor's clusters and job executions, and the
users of the proxy domain.  The tasks read it through `cluster_get_all`, `job_execution_count`,
`job_execution_get` and `proxy_domain_users_list`, and write it through `cluster_update` and
`proxy_user_delete`, and through `ops.terminate_cluster` and `job_manager.update_job_statuses`,
whose writes the world decides.  A task runs in a world, an `Env` that may make any call raise,
whose reads the store answers (`Store.over`); the calls of the run that did not raise are then
applied to the store in order (`Store.commit`).  Answering every read from the store as it was when
the run began is exact for these tasks: each reads the list of clusters or users before its first
write, and none of them writes the job executions it reads later. -/

namespace Sahara.Service

/-- A row of the job executions table: its id, its cluster, whether its `end_time` is set, and the
record `job_execution_get` returns. -/
structure JobRow where
  id : String
  clusterId : String
  ended : Bool
  execution : JobExecution
  deriving DecidableEq, Repr

/-- The conductor's clusters and job executions, and the users of the proxy domain.  Cluster ids
and user ids are keys: no two rows share one. -/
@[ext] structure Store where
  clusters : List Cluster
  jobs : List JobRow
  users : List User
  clusters_nodup : (clusters.map Cluster.id).Nodup
  users_nodup : (users.map User.id).Nodup

/-- The calls of `evs` that do not raise in the world `env`. -/
def Env.answered (env : Env) (evs : List Call) : List Call :=
  evs.filter fun c => (env.answer c).isOk

theorem Env.answered_cons (env : Env) (c : Call) (evs : List Call) :
    env.answered (c :: evs) = env.answered [c] ++ env.answered evs :=
  List.filter_append [c] evs

theorem Env.filterMap_answered_sublist {β : Type} (env : Env) (p : Call → Option β)
    (evs : List Call) : ((env.answered evs).filterMap p).Sublist (evs.filterMap p) :=
  (List.filter_sublist _).filterMap p

theorem Env.filterMap_answered {β : Type} {env : Env} {evs : List Call} (p : Call → Option β)
    (h : ∀ c ∈ evs, (p c).isSome → (env.answer c).isOk) :
    (env.answered evs).filterMap p = evs.filterMap p := by
  rw [Env.answered, List.filterMap_filter]
  refine List.filterMap_congr fun c hc => ?_
  cases hp : p c with
  | none => simp
  | some b => simp [h c hc (by simp [hp])]

namespace Store

variable (s : Store)

/-! ### Reads -/

/-- `conductor.cluster_get_all(ctx, status=status)`. -/
def clusterGetAll (status : String) : List Cluster :=
  s.clusters.filter fun c => c.status == status

/-- `conductor.job_execution_count(ctx, end_time=None, cluster_id=id)`. -/
def jobExecutionCount (id : String) : Nat :=
  (s.jobs.filter fun j => !j.ended && j.clusterId == id).length

/-- `conductor.job_execution_get(ctx, id)`. -/
def jobExecutionGet (id : String) : Option JobExecution :=
  (s.jobs.find? fun j => j.id == id).map JobRow.execution

/-- The answer the store gives to a read; none for a call that is not a read of the store. -/
def read : (c : Call) → Option c.Answer
  | .clusterGetAll status => some (s.clusterGetAll status)
  | .jobExecutionCount id => some (s.jobExecutionCount id)
  | .jobExecutionGet id => some (s.jobExecutionGet id)
  | .proxyDomainUsersList => some s.users
  | _ => none

@[simp] theorem read_clusterGetAll (status : String) :
    s.read (.clusterGetAll status) = some (s.clusterGetAll status) := rfl
@[simp] theorem read_jobExecutionCount (id : String) :
    s.read (.jobExecutionCount id) = some (s.jobExecutionCount id) := rfl
@[simp] theorem read_jobExecutionGet (id : String) :
    s.read (.jobExecutionGet id) = some (s.jobExecutionGet id) := rfl
@[simp] theorem read_proxyDomainUsersList : s.read .proxyDomainUsersList = some s.users := rfl

/-- The world `env` with its reads answered by the store; a call that `env` makes raise still
raises. -/
def over (env : Env) : Env :=
  { env with answer := fun c => match env.answer c, s.read c with
      | .ok _, some a => .ok a
      | r, _ => r }

@[simp] theorem over_conf (env : Env) : (s.over env).conf = env.conf := rfl
@[simp] theorem over_utcnow (env : Env) : (s.over env).utcnow = env.utcnow := rfl
@[simp] theorem over_jobStatusesTerminated (env : Env) :
    (s.over env).jobStatusesTerminated = env.jobStatusesTerminated := rfl

/-- A read answers from the store, unless the world makes it raise. -/
theorem over_answer_of_read {env : Env} {c : Call} {b : c.Answer} (hr : s.read c = some b) :
    (s.over env).answer c = (env.answer c).map fun _ => b := by
  simp only [over, hr]
  cases env.answer c <;> rfl

theorem over_answer_of_not_read {env : Env} {c : Call} (hr : s.read c = none) :
    (s.over env).answer c = env.answer c := by
  simp only [over, hr]
  split <;> simp_all

theorem over_answer_isOk (env : Env) (c : Call) :
    ((s.over env).answer c).isOk = (env.answer c).isOk := by
  simp only [over]
  split <;> simp_all [Except.isOk, Except.toBool]

/-- A framed body that returned got the store's answer to its first read. -/
theorem over_answer_of_framed_ok {env : Env} {c : Call} {b : c.Answer}
    {f : c.Answer → Run Call Unit} (hr : s.read c = some b)
    (hok : (framed (SaharaPeriodicTasks.ask (s.over env) c >>= f)).result = .ok ()) :
    (s.over env).answer c = .ok b := by
  obtain ⟨a, ha, -⟩ := Run.bind_result_ok hok
  rw [SaharaPeriodicTasks.ask, Run.result_invoke, over_answer_of_read s hr] at ha
  rw [over_answer_of_read s hr]
  cases h : env.answer c with
  | error e => rw [h] at ha; cases ha
  | ok _ => rfl

/-! ### Writes -/

theorem ids_filterMap_sublist {f : Cluster → Option Cluster}
    (hf : ∀ c c', f c = some c' → c'.id = c.id) (l : List Cluster) :
    ((l.filterMap f).map Cluster.id).Sublist (l.map Cluster.id) := by
  induction l with
  | nil => exact .slnil
  | cons c l ih =>
    rw [List.filterMap_cons]
    cases h : f c with
    | none => exact ih.cons _
    | some c' => rw [List.map_cons, List.map_cons, hf c c' h]; exact ih.cons₂ _

/-- The row of the cluster `c` after a termination that leaves it with `status`; none when that is
none and the cluster is gone. -/
def terminatedRow (status : Option String) (c : Cluster) : Option Cluster :=
  status.map fun status => { c with status }

theorem id_of_terminatedRow {p : Prop} [Decidable p] {status : Option String} {c c' : Cluster}
    (h : (if p then terminatedRow status c else some c) = some c') : c'.id = c.id := by
  split at h
  · obtain ⟨_, -, rfl⟩ := Option.map_eq_some'.mp h
    rfl
  · exact Option.some.inj h ▸ rfl

/-- `conductor.cluster_update(ctx, cluster, {'status': status})` on the cluster `id`. -/
def clusterUpdate (id status : String) : Store :=
  { s with
    clusters := s.clusters.map fun c => if c.id = id then { c with status } else c
    clusters_nodup := by
      simpa only [List.map_map, Function.comp_def, apply_ite Cluster.id, ite_self]
        using s.clusters_nodup }

/-- `ops.terminate_cluster(id)` that returned, leaving the cluster `id` with `status`, or gone. -/
def terminateCluster (id : String) (status : Option String) : Store :=
  { s with
    clusters := s.clusters.filterMap fun c => if c.id = id then terminatedRow status c else some c
    clusters_nodup := s.clusters_nodup.sublist
      (ids_filterMap_sublist (fun _ _ => id_of_terminatedRow) _) }

/-- `p.proxy_user_delete(user_id=id)`. -/
def proxyUserDelete (id : String) : Store :=
  { s with
    users := s.users.filter fun u => u.id != id
    users_nodup := s.users_nodup.sublist ((List.filter_sublist _).map _) }

/-- The row of a job execution after `job_manager.update_job_statuses()` refreshed it as
`refreshed` says. -/
def refreshJob (refreshed : String → Option (Bool × JobExecution)) (j : JobRow) : JobRow :=
  match refreshed j.id with
  | some (ended, execution) => { j with ended, execution }
  | none => j

/-- `job_manager.update_job_statuses()` that returned. -/
def updateJobStatuses (refreshed : String → Option (Bool × JobExecution)) : Store :=
  { s with jobs := s.jobs.map (refreshJob refreshed) }

/-- The store after a call that did not raise in the world `env`: the writes of the conductor and
of the proxy domain change it, the termination and the refresh as the world says; no other call
does. -/
def apply (env : Env) : Call → Store
  | .clusterUpdate id status => s.clusterUpdate id status
  | .terminateCluster id => s.terminateCluster id (env.terminatedStatus id)
  | .updateJobStatuses => s.updateJobStatuses env.refreshedJob
  | .proxyUserDelete id => s.proxyUserDelete id
  | _ => s

/-- The store after the calls `evs` of a run in the world `env`: each call that `env` does not make
raise is applied in turn. -/
def commit (env : Env) (evs : List Call) : Store :=
  evs.foldl (fun s c => if (env.answer c).isOk then s.apply env c else s) s

@[simp] theorem commit_nil (env : Env) : s.commit env [] = s := rfl

theorem commit_cons (env : Env) (c : Call) (evs : List Call) :
    s.commit env (c :: evs) = (if (env.answer c).isOk then s.apply env c else s).commit env evs :=
  rfl

theorem commit_append (env : Env) (evs evs' : List Call) :
    s.commit env (evs ++ evs') = (s.commit env evs).commit env evs' :=
  List.foldl_append ..

theorem jobs_apply {env : Env} {c : Call} (h : c ≠ .updateJobStatuses) :
    (s.apply env c).jobs = s.jobs := by
  cases c <;> first | rfl | exact absurd rfl h

/-- A run that does not refresh the job statuses leaves the job executions as they were. -/
theorem jobs_commit {env : Env} {evs : List Call} (h : .updateJobStatuses ∉ evs) :
    (s.commit env evs).jobs = s.jobs := by
  induction evs generalizing s with
  | nil => rfl
  | cons c evs ih =>
    rw [List.mem_cons, not_or] at h
    rw [commit_cons, ih _ h.2]
    split
    · exact s.jobs_apply (Ne.symm h.1)
    · rfl

theorem users_step (env : Env) (c : Call) :
    (if (env.answer c).isOk then s.apply env c else s).users =
      s.users.filter fun u => u.id ∉ deleted (env.answered [c]) := by
  by_cases h : (env.answer c).isOk
  · cases c <;> simp [h, apply, proxyUserDelete, Env.answered, deleted] <;> rfl
  · simp [h, Env.answered, deleted]

/-- The users after a run are those that no call of the run that did not raise deleted. -/
theorem users_commit (env : Env) (evs : List Call) :
    (s.commit env evs).users = s.users.filter fun u => u.id ∉ deleted (env.answered evs) := by
  induction evs generalizing s with
  | nil => simp [Env.answered, deleted]
  | cons c evs ih =>
    rw [commit_cons, ih, users_step, List.filter_filter]
    refine List.filter_congr fun u _ => ?_
    rw [env.answered_cons c evs, deleted_append]
    simp only [List.mem_append, not_or, Bool.decide_and, Bool.and_comm]

/-! ### The rows of the clusters -/

/-- What a call that returned in the world `env` does to the row of the cluster `c`: the row it
leaves, or none when the cluster is gone. -/
def rowStep (env : Env) : Call → Cluster → Option Cluster
  | .clusterUpdate id status, c => some (if c.id = id then { c with status } else c)
  | .terminateCluster id, c => if c.id = id then terminatedRow (env.terminatedStatus id) c else some c
  | _, c => some c

/-- The row of the cluster `c` after the calls `cs` that returned, in order. -/
def rowAfter (env : Env) : List Call → Cluster → Option Cluster
  | [], c => some c
  | call :: cs, c => (rowStep env call c).bind (rowAfter env cs)

theorem clusters_apply (env : Env) (c : Call) :
    (s.apply env c).clusters = s.clusters.filterMap (rowStep env c) := by
  cases c with
  | clusterUpdate id st => exact (congrFun (List.filterMap_eq_map _) _).symm
  | terminateCluster id => rfl
  | _ => exact (List.filterMap_some _).symm

/-- The clusters after a run are the rows that the calls of the run that did not raise leave. -/
theorem clusters_commit_rows (env : Env) (evs : List Call) :
    (s.commit env evs).clusters = s.clusters.filterMap (rowAfter env (env.answered evs)) := by
  induction evs generalizing s with
  | nil => exact (List.filterMap_some _).symm
  | cons c evs ih =>
    rw [commit_cons, ih]
    by_cases h : (env.answer c).isOk
    · rw [if_pos h, clusters_apply, List.filterMap_filterMap]
      simp only [Env.answered, List.filter_cons, h, ite_true]
      rfl
    · simp only [if_neg h, Env.answered, List.filter_cons, h, Bool.false_eq_true, ite_false]

theorem rowStep_id {env : Env} {call : Call} {c c' : Cluster} (h : rowStep env call c = some c') :
    c'.id = c.id := by
  cases call with
  | clusterUpdate id st =>
    obtain rfl := Option.some.inj h
    split <;> rfl
  | terminateCluster id => exact id_of_terminatedRow h
  | _ => exact Option.some.inj h ▸ rfl

theorem rowAfter_id {env : Env} {cs : List Call} {c c' : Cluster} (h : rowAfter env cs c = some c') :
    c'.id = c.id := by
  induction cs generalizing c with
  | nil => exact Option.some.inj h ▸ rfl
  | cons call cs ih =>
    obtain ⟨d, hd, h⟩ := Option.bind_eq_some.mp h
    exact (ih h).trans (rowStep_id hd)

/-- Calls that neither update nor terminate the cluster `c` leave its row as it is. -/
theorem rowAfter_of_not_written {env : Env} {cs : List Call} {c : Cluster}
    (hu : c.id ∉ (statusUpdates cs).map Prod.fst) (ht : c.id ∉ terminated cs) :
    rowAfter env cs c = some c := by
  induction cs with
  | nil => rfl
  | cons call cs ih =>
    cases call with
    | clusterUpdate id st =>
      simp only [statusUpdates, List.filterMap_cons, List.map_cons, List.mem_cons, not_or] at hu
      rw [rowAfter, rowStep, if_neg hu.1, Option.some_bind]
      exact ih hu.2 ht
    | terminateCluster id =>
      simp only [terminated, List.filterMap_cons, List.mem_cons, not_or] at ht
      rw [rowAfter, rowStep, if_neg ht.1, Option.some_bind]
      exact ih hu ht.2
    | _ => exact ih hu ht

/-- `mark ids status c`: the cluster `c` with `status` if its id is among `ids`. -/
def mark (ids : List String) (status : String) (c : Cluster) : Cluster :=
  if c.id ∈ ids then { c with status } else c

@[simp] theorem mark_nil (status : String) : mark [] status = id :=
  funext fun c => by simp [mark]

@[simp] theorem id_mark (ids : List String) (status : String) (c : Cluster) :
    (mark ids status c).id = c.id := by
  unfold mark; split <;> rfl

theorem mark_mark (ids ids' : List String) (status : String) (c : Cluster) :
    mark ids' status (mark ids status c) = mark (ids ++ ids') status c := by
  by_cases h : c.id ∈ ids <;> by_cases h' : c.id ∈ ids' <;> simp [mark, h, h']

/-- Calls that terminate no cluster and update clusters to `status` only mark the clusters they
update. -/
theorem rowAfter_marks {env : Env} {cs : List Call} {status : String} (ht : terminated cs = [])
    (hc : ∀ id st, .clusterUpdate id st ∈ cs → st = status) (c : Cluster) :
    rowAfter env cs c = some (mark ((statusUpdates cs).map Prod.fst) status c) := by
  induction cs generalizing c with
  | nil => simp [rowAfter, statusUpdates, mark]
  | cons call cs ih =>
    have hc' := fun id st h => hc id st (List.mem_cons_of_mem call h)
    cases call with
    | clusterUpdate id st =>
      obtain rfl := hc id st (List.mem_cons_self _ _)
      have hmark : (if c.id = id then { c with status := st } else c) = mark [id] st c := by
        simp [mark]
      rw [rowAfter, rowStep, hmark, Option.some_bind, ih ht hc', mark_mark]
      rfl
    | terminateCluster id => simp [terminated] at ht
    | _ => exact ih ht hc' c

/-- Calls that update no cluster leave each cluster as its terminations among them leave it. -/
theorem rowAfter_terminations {env : Env} {cs : List Call} (hs : statusUpdates cs = [])
    (c : Cluster) :
    rowAfter env cs c =
      if c.id ∈ terminated cs then terminatedRow (env.terminatedStatus c.id) c else some c := by
  induction cs generalizing c with
  | nil => simp [rowAfter, terminated]
  | cons call cs ih =>
    cases call with
    | clusterUpdate id st => simp [statusUpdates] at hs
    | terminateCluster id =>
      simp only [rowAfter, rowStep, terminated, List.filterMap_cons, List.mem_cons]
      by_cases h : c.id = id
      · subst h
        cases hst : env.terminatedStatus c.id with
        | none => simp [terminatedRow, hst]
        | some st => simp [terminatedRow, hst, ih hs]
      · simp only [if_neg h, Option.some_bind, ih hs, h, false_or]
        rfl
    | _ => exact ih hs c

/-- When a run terminates no cluster and updates clusters to `status` only, the clusters after it
are those it marked, in the calls that did not raise. -/
theorem clusters_commit {env : Env} {evs : List Call} {status : String} (ht : terminated evs = [])
    (hc : ∀ id st, .clusterUpdate id st ∈ evs → st = status) :
    (s.commit env evs).clusters =
      s.clusters.map (mark ((statusUpdates (env.answered evs)).map Prod.fst) status) := by
  have hsub : (terminated (env.answered evs)).Sublist (terminated evs) :=
    env.filterMap_answered_sublist _ evs
  rw [ht, List.sublist_nil] at hsub
  rw [clusters_commit_rows, ← List.filterMap_eq_map]
  exact List.filterMap_congr fun c _ => rowAfter_marks hsub
    (fun id st h => hc id st (List.mem_filter.mp h).1) c

theorem users_commit_of_deleted_nil {env : Env} {evs : List Call} (h : deleted evs = []) :
    (s.commit env evs).users = s.users := by
  have hsub : (deleted (env.answered evs)).Sublist (deleted evs) :=
    env.filterMap_answered_sublist _ evs
  rw [h, List.sublist_nil] at hsub
  rw [users_commit, hsub]
  simp

/-- A run that neither updates nor terminates a cluster leaves the clusters as they were. -/
theorem clusters_commit_of_no_writes {env : Env} {evs : List Call}
    (h : statusUpdates evs = []) (ht : terminated evs = []) :
    (s.commit env evs).clusters = s.clusters := by
  have hnone : ∀ id st, .clusterUpdate id st ∈ evs → st = "" := fun id st hm => by
    have : (id, st) ∈ statusUpdates evs := List.mem_filterMap.mpr ⟨_, hm, rfl⟩
    rw [h] at this
    cases this
  have hsub : (statusUpdates (env.answered evs)).Sublist (statusUpdates evs) :=
    env.filterMap_answered_sublist _ evs
  rw [h, List.sublist_nil] at hsub
  rw [clusters_commit s ht hnone, hsub]
  simp

theorem deleted_answered {env : Env} {evs : List Call}
    (h : ∀ id ∈ deleted evs, (env.answer (.proxyUserDelete id)).isOk) :
    deleted (env.answered evs) = deleted evs :=
  Env.filterMap_answered _ fun c hc hsome => by
    cases c with
    | proxyUserDelete id => exact h id (List.mem_filterMap.mpr ⟨_, hc, rfl⟩)
    | _ => simp at hsome

theorem terminated_answered (env : Env) (evs : List Call) :
    terminated (env.answered evs) =
      (terminated evs).filter fun id => (env.answer (.terminateCluster id)).isOk := by
  rw [Env.answered, terminated, List.filterMap_filter, List.filter_filterMap]
  exact List.filterMap_congr fun c _ => by cases c <;> simp [Option.filter]

theorem statusUpdates_answered {env : Env} {evs : List Call}
    (h : ∀ u ∈ statusUpdates evs, (env.answer (.clusterUpdate u.1 u.2)).isOk) :
    statusUpdates (env.answered evs) = statusUpdates evs :=
  Env.filterMap_answered _ fun c hc hsome => by
    cases c with
    | clusterUpdate id st => exact h (id, st) (List.mem_filterMap.mpr ⟨_, hc, rfl⟩)
    | _ => simp at hsome

/-! ### What the tasks are for -/

/-- A zombie of the proxy domain: a user named `job_` followed by the id of a job execution that is
missing or has one of the `terminal` statuses. -/
def zombie (terminal : List String) (u : User) : Bool :=
  startswith u.name "job_" && match s.jobExecutionGet (sliceFrom u.name 4) with
    | none => true
    | some je => decide (je.info.status ∈ terminal)

/-- What `check_for_zombie_proxy_users` is for: the store without the zombies of the proxy
domain. -/
def sweepZombies (terminal : List String) : Store :=
  { s with
    users := s.users.filter fun u => !s.zombie terminal u
    users_nodup := s.users_nodup.sublist ((List.filter_sublist _).map _) }

/-- An unneeded cluster: active and transient, with no job execution lacking an end time, and
last updated at least `minActive` seconds before the reading `now`. -/
def unneeded (minActive : Int) (now : Instant) (c : Cluster) : Bool :=
  c.status == "Active" && c.isTransient && decide (s.jobExecutionCount c.id = 0) &&
    !decide (deltaSeconds c.updatedAt now < minActive)

/-- What `terminate_unneeded_clusters` is for with the identity API v3: every unneeded cluster whose
termination returns (`terminates`) takes the status the termination leaves it with, or is gone. -/
def terminateUnneeded (minActive : Int) (now : Cluster → Instant) (terminates : String → Bool)
    (status : String → Option String) : Store :=
  { s with
    clusters := s.clusters.filterMap fun c =>
      if s.unneeded minActive (now c) c && terminates c.id then terminatedRow (status c.id) c
      else some c
    clusters_nodup := s.clusters_nodup.sublist
      (ids_filterMap_sublist (fun _ _ => id_of_terminatedRow) _) }

/-- What `terminate_unneeded_clusters` is for without the identity API v3: the store with every
unneeded cluster awaiting termination, `now c` being the clock reading at cluster `c`. -/
def markUnneeded (minActive : Int) (now : Cluster → Instant) : Store :=
  { s with
    clusters := s.clusters.map fun c =>
      if s.unneeded minActive (now c) c then { c with status := "AwaitingTermination" } else c
    clusters_nodup := by
      simpa only [List.map_map, Function.comp_def, apply_ite Cluster.id, ite_self]
        using s.clusters_nodup }

end Store

end Sahara.Service

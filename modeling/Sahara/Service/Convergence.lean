import Sahara.Service.Schedule

/-! What the periodic tasks do to the store.  Run against the store and committed, a sweep for
zombie proxy users that returns removes exactly the zombies of the store, and
`terminate_unneeded_clusters` that returns marks exactly the unneeded clusters as awaiting
termination when the identity API v3 is off, and leaves each unneeded cluster whose termination
returns as the termination leaves it when it is on: the runs refine `Store.sweepZombies`,
`Store.markUnneeded` and `Store.terminateUnneeded`.  Over any schedule, a sweep that returned leaves
no zombie for a later run that writes no job execution to delete, and no cluster is ever marked
twice, because `cluster_get_all(ctx, status='Active')` lists active clusters only and a marked
cluster is no longer active. -/

namespace Sahara.Service

open Run SaharaPeriodicTasks

/-! ### What each task writes, in any world -/

theorem mem_framed_events {x : Run Call Unit} {ev : Call} (h : ev ∈ (framed x).events) :
    (∃ ctx, ev = .setCtx ctx) ∨ ev ∈ x.events := by
  simp only [framed, List.mem_cons, List.mem_append] at h
  rcases h with h | h | h
  · exact .inl ⟨_, h⟩
  · exact .inr h
  · split at h <;> simp_all

theorem mem_updateJobStatuses_events (env : Env) {ev : Call}
    (h : ev ∈ (updateJobStatuses env).events) :
    (∃ ctx, ev = .setCtx ctx) ∨ ev = .updateJobStatuses := by
  rw [updateJobStatuses_framed] at h
  simpa [ask] using mem_framed_events h

theorem mem_checkForZombieProxyUsers_events (env : Env) {ev : Call}
    (h : ev ∈ (checkForZombieProxyUsers env).events) :
    (∃ ctx, ev = .setCtx ctx) ∨ ev = .proxyDomainUsersList ∨ (∃ id, ev = .jobExecutionGet id) ∨
      ∃ id, ev = .proxyUserDelete id := by
  rw [checkForZombieProxyUsers_framed] at h
  rcases mem_framed_events h with h | h
  · exact .inl h
  rcases mem_bind_events h with h | ⟨us, h⟩
  · simp only [ask, events_invoke, List.mem_singleton] at h
    exact .inr (.inl h)
  · obtain ⟨u, -, h⟩ := mem_forM_events h
    rcases checkForZombieProxyUser_events env h with rfl | ⟨-, rfl⟩
    · exact .inr (.inr (.inl ⟨_, rfl⟩))
    · exact .inr (.inr (.inr ⟨_, rfl⟩))

theorem mem_terminateUnneededClusters_events (env : Env) {ev : Call}
    (h : ev ∈ (terminateUnneededClusters env).events) :
    (∃ ctx, ev = .setCtx ctx) ∨ ev = .clusterGetAll "Active" ∨
      ∃ c, ev ∈ (terminateUnneededCluster env c).events := by
  rw [terminateUnneededClusters_framed] at h
  rcases mem_framed_events h with h | h
  · exact .inl h
  rcases mem_bind_events h with h | ⟨cs, h⟩
  · simp only [ask, events_invoke, List.mem_singleton] at h
    exact .inr (.inl h)
  · obtain ⟨c, -, h⟩ := mem_forM_events h
    exact .inr (.inr ⟨c, h⟩)

theorem updateJobStatuses_not_mem_checkForZombieProxyUsers (env : Env) :
    .updateJobStatuses ∉ (checkForZombieProxyUsers env).events := fun h => by
  rcases mem_checkForZombieProxyUsers_events env h with ⟨_, h⟩ | h | ⟨_, h⟩ | ⟨_, h⟩ <;> cases h

theorem updateJobStatuses_not_mem_terminateUnneededClusters (env : Env) :
    .updateJobStatuses ∉ (terminateUnneededClusters env).events := fun h => by
  rcases mem_terminateUnneededClusters_events env h with ⟨_, h⟩ | h | ⟨c, h⟩
  · cases h
  · cases h
  · rcases terminateUnneededCluster_events env h with h | h | ⟨-, ⟨-, h | h⟩ | ⟨-, -, h⟩⟩ <;>
      cases h

theorem statusUpdates_checkForZombieProxyUsers (env : Env) :
    statusUpdates (checkForZombieProxyUsers env).events = [] :=
  List.filterMap_eq_nil_iff.mpr fun _ hev => by
    rcases mem_checkForZombieProxyUsers_events env hev with ⟨_, rfl⟩ | rfl | ⟨_, rfl⟩ | ⟨_, rfl⟩ <;>
      rfl

theorem terminated_checkForZombieProxyUsers (env : Env) :
    terminated (checkForZombieProxyUsers env).events = [] :=
  List.filterMap_eq_nil_iff.mpr fun _ hev => by
    rcases mem_checkForZombieProxyUsers_events env hev with ⟨_, rfl⟩ | rfl | ⟨_, rfl⟩ | ⟨_, rfl⟩ <;>
      rfl

theorem deleted_terminateUnneededClusters (env : Env) :
    deleted (terminateUnneededClusters env).events = [] :=
  List.filterMap_eq_nil_iff.mpr fun _ hev => by
    rcases mem_terminateUnneededClusters_events env hev with ⟨_, rfl⟩ | rfl | ⟨c, h⟩
    · rfl
    · rfl
    · rcases terminateUnneededCluster_events env h with
        rfl | rfl | ⟨-, ⟨-, rfl | rfl⟩ | ⟨-, -, rfl⟩⟩ <;> rfl

theorem statusUpdates_terminateUnneededClusters_of_v3 {env : Env}
    (hv : env.conf.useIdentityApiV3 = true) :
    statusUpdates (terminateUnneededClusters env).events = [] :=
  List.filterMap_eq_nil_iff.mpr fun _ hev => by
    rcases mem_terminateUnneededClusters_events env hev with ⟨_, rfl⟩ | rfl | ⟨c, h⟩
    · rfl
    · rfl
    · rcases terminateUnneededCluster_events env h with
        rfl | rfl | ⟨-, ⟨-, rfl | rfl⟩ | ⟨hv', -, -⟩⟩
      · rfl
      · rfl
      · rfl
      · rfl
      · exact absurd (hv.symm.trans hv') (by decide)

theorem terminated_terminateUnneededClusters_of_not_v3 {env : Env}
    (hv : env.conf.useIdentityApiV3 = false) :
    terminated (terminateUnneededClusters env).events = [] :=
  List.filterMap_eq_nil_iff.mpr fun _ hev => by
    rcases mem_terminateUnneededClusters_events env hev with ⟨_, rfl⟩ | rfl | ⟨c, h⟩
    · rfl
    · rfl
    · rcases terminateUnneededCluster_events env h with
        rfl | rfl | ⟨-, ⟨hv', -⟩ | ⟨-, -, rfl⟩⟩
      · rfl
      · rfl
      · exact absurd (hv.symm.trans hv') (by decide)
      · rfl

theorem statusUpdates_terminateUnneededClusters_sublist (env : Env) {clusters : List Cluster}
    (hget : env.answer (.clusterGetAll "Active") = .ok clusters) :
    (statusUpdates (terminateUnneededClusters env).events).Sublist
      (clusters.map fun c => (c.id, "AwaitingTermination")) := by
  rw [statusUpdates_terminateUnneededClusters env hget, List.map_eq_flatMap]
  refine filterMap_forM_sublist _ _ fun c _ => ?_
  show (statusUpdates _).Sublist _
  rw [statusUpdates_terminateUnneededCluster]
  split
  · exact List.Sublist.refl _
  · exact List.nil_sublist _

theorem deleted_checkForZombieProxyUser_sublist (env : Env) (u : User) :
    (deleted (checkForZombieProxyUser env u).events).Sublist [u.id] := by
  cases hz : isZombie env u
  · have hnil : deleted (checkForZombieProxyUser env u).events = [] :=
      List.filterMap_eq_nil_iff.mpr fun ev hev => by
        rw [(checkForZombieProxyUser_not_zombie env hz).1 ev hev]
    rw [hnil]
    exact List.nil_sublist _
  · rw [checkForZombieProxyUser_zombie env hz]
    exact List.Sublist.refl _

theorem deleted_checkForZombieProxyUsers_sublist (env : Env) {users : List User}
    (hlist : env.answer .proxyDomainUsersList = .ok users) :
    (deleted (checkForZombieProxyUsers env).events).Sublist (users.map User.id) := by
  rw [deleted_checkForZombieProxyUsers env hlist, List.map_eq_flatMap]
  exact filterMap_forM_sublist _ _ fun u _ => deleted_checkForZombieProxyUser_sublist env u

theorem deleted_checkForZombieProxyUsers_of_error (env : Env) {e : PyError}
    (hlist : env.answer .proxyDomainUsersList = .error e) :
    deleted (checkForZombieProxyUsers env).events = [] := by
  rw [checkForZombieProxyUsers_framed, deleted, filterMap_framed _ fun _ => rfl]
  simp [ask, hlist]

theorem statusUpdates_terminateUnneededClusters_of_error (env : Env) {e : PyError}
    (hget : env.answer (.clusterGetAll "Active") = .error e) :
    statusUpdates (terminateUnneededClusters env).events = [] := by
  rw [terminateUnneededClusters_framed, statusUpdates, filterMap_framed _ fun _ => rfl]
  simp [ask, hget]

theorem terminated_terminateUnneededClusters_of_error (env : Env) {e : PyError}
    (hget : env.answer (.clusterGetAll "Active") = .error e) :
    terminated (terminateUnneededClusters env).events = [] := by
  rw [terminateUnneededClusters_framed, terminated, filterMap_framed _ fun _ => rfl]
  simp [ask, hget]

theorem status_of_clusterUpdate_mem {evs : List Call} {l : List Cluster} {status : String}
    (h : (statusUpdates evs).Sublist (l.map fun c => (c.id, status))) {id st : String}
    (hm : .clusterUpdate id st ∈ evs) : st = status := by
  obtain ⟨c, -, hc⟩ := List.mem_map.mp (h.subset (List.mem_filterMap.mpr ⟨_, hm, rfl⟩))
  exact (Prod.mk.inj hc).2.symm

namespace Store

variable (s : Store)

/-! ### The sweep for zombie proxy users -/

/-- In a world over the store, the sweep finds a user a zombie exactly when the user is a zombie of
the store and the lookup of its job execution does not raise. -/
theorem isZombie_over (env : Env) (u : User) :
    isZombie (s.over env) u = (s.zombie env.jobStatusesTerminated u &&
      (env.answer (.jobExecutionGet (sliceFrom u.name 4))).isOk) := by
  unfold isZombie jobExecutionOf zombie
  rw [over_answer_of_read s (s.read_jobExecutionGet _)]
  cases startswith u.name "job_" <;> cases env.answer (.jobExecutionGet (sliceFrom u.name 4)) <;>
    cases s.jobExecutionGet (sliceFrom u.name 4) <;> simp [Except.map, Except.isOk, Except.toBool]

/-- A sweep against the store deletes zombies of the store only. -/
theorem deleted_checkForZombieProxyUsers_over (env : Env) :
    ∀ id ∈ deleted (checkForZombieProxyUsers (s.over env)).events,
      ∃ u ∈ s.users, u.id = id ∧ s.zombie env.jobStatusesTerminated u = true := by
  intro id hid
  cases hlist : env.answer .proxyDomainUsersList with
  | error e =>
    rw [deleted_checkForZombieProxyUsers_of_error _
      (by rw [over_answer_of_read s s.read_proxyDomainUsersList, hlist]; rfl)] at hid
    cases hid
  | ok us =>
    have hget : (s.over env).answer .proxyDomainUsersList = .ok s.users := by
      rw [over_answer_of_read s s.read_proxyDomainUsersList, hlist]; rfl
    rw [deleted_checkForZombieProxyUsers _ hget] at hid
    obtain ⟨ev, hev, hf⟩ := List.mem_filterMap.mp hid
    obtain ⟨u, hu, hevu⟩ := mem_forM_events hev
    rcases checkForZombieProxyUser_events _ hevu with rfl | ⟨hz, rfl⟩ <;> cases hf
    rw [isZombie_over, Bool.and_eq_true] at hz
    exact ⟨u, hu, rfl, hz.1⟩

theorem isZombie_over_of_lookup {env : Env} {u : User}
    (h : startswith u.name "job_" = true → ∃ je, jobExecutionOf (s.over env) u = .ok je) :
    isZombie (s.over env) u = s.zombie env.jobStatusesTerminated u := by
  rw [isZombie_over]
  cases hz : s.zombie env.jobStatusesTerminated u
  · rfl
  · have hs : startswith u.name "job_" = true := by
      simp only [zombie, Bool.and_eq_true] at hz
      exact hz.1
    obtain ⟨je, hje⟩ := h hs
    rw [← s.over_answer_isOk env]
    unfold jobExecutionOf at hje
    rw [hje]
    rfl

/-- A sweep for zombie proxy users that returns, committed to the store, removes exactly the
zombies of the store from the proxy domain. -/
theorem users_commit_checkForZombieProxyUsers {env : Env}
    (hok : (checkForZombieProxyUsers (s.over env)).result = .ok ()) :
    (s.commit env (checkForZombieProxyUsers (s.over env)).events).users =
      s.users.filter fun u => !s.zombie env.jobStatusesTerminated u := by
  have hget : (s.over env).answer .proxyDomainUsersList = .ok s.users :=
    s.over_answer_of_framed_ok s.read_proxyDomainUsersList
      (by rwa [checkForZombieProxyUsers_framed] at hok)
  have hbody := forM_result_ok_iff.mp
    (by rwa [checkForZombieProxyUsers_framed, ask_bind_of_ok _ hget] at hok)
  have hiff u (hu : u ∈ s.users) := (checkForZombieProxyUser_result_ok_iff _ u).mp (hbody u hu)
  have hdel := (checkForZombieProxyUser_loop _ s.users (fun u hu => (hiff u hu).1)
    fun u hu => (hiff u hu).2).2
  rw [← deleted_checkForZombieProxyUsers _ hget] at hdel
  have hans : deleted (env.answered (checkForZombieProxyUsers (s.over env)).events) =
      (s.users.filter (isZombie (s.over env))).map User.id := by
    rw [deleted_answered, hdel]
    intro id hid
    rw [hdel] at hid
    obtain ⟨u, hu, rfl⟩ := List.mem_map.mp hid
    obtain ⟨hus, hz⟩ := List.mem_filter.mp hu
    rw [← s.over_answer_isOk env, (hiff u hus).2 hz]
    rfl
  rw [users_commit, hans]
  refine List.filter_congr fun u hu => ?_
  simp only [mem_map_filter_iff s.users_nodup hu, isZombie_over_of_lookup s (hiff u hu).1]
  cases s.zombie env.jobStatusesTerminated u <;> rfl

/-- A sweep for zombie proxy users that returns, committed to the store, leaves the store without
its zombies, and changes nothing else: `check_for_zombie_proxy_users` refines
`Store.sweepZombies`. -/
theorem checkForZombieProxyUsers_commit {env : Env}
    (hok : (checkForZombieProxyUsers (s.over env)).result = .ok ()) :
    s.commit env (checkForZombieProxyUsers (s.over env)).events =
      s.sweepZombies env.jobStatusesTerminated :=
  Store.ext
    (clusters_commit_of_no_writes s (statusUpdates_checkForZombieProxyUsers _)
      (terminated_checkForZombieProxyUsers _))
    (jobs_commit s (updateJobStatuses_not_mem_checkForZombieProxyUsers _))
    (s.users_commit_checkForZombieProxyUsers hok)

end Store

/-- A store for the examples: the transient cluster `etl`, its job execution `b` killed, the
permanent cluster `db` running job execution `a`, and the transient cluster `old`, already awaiting
termination; the proxy users are named after `a`, `b`, a missing `c`, and an administrator. -/
def exampleStore : Store where
  clusters := [⟨"c1", "etl", "Active", true, 0⟩, ⟨"c2", "db", "Active", false, 0⟩,
    ⟨"c3", "old", "AwaitingTermination", true, 0⟩]
  jobs := [⟨"a", "c2", false, ⟨⟨"RUNNING"⟩⟩⟩, ⟨"b", "c1", true, ⟨⟨"KILLED"⟩⟩⟩]
  users := [⟨"1", "job_a"⟩, ⟨"2", "job_b"⟩, ⟨"3", "job_c"⟩, ⟨"4", "admin"⟩]
  clusters_nodup := by decide
  users_nodup := by decide

/-- There the sweep returns and leaves the users of the running job execution and the
administrator. -/
theorem sweep_keeps_running_job_user :
    (checkForZombieProxyUsers (exampleStore.over calmWorld)).result = .ok () ∧
    (exampleStore.commit calmWorld
      (checkForZombieProxyUsers (exampleStore.over calmWorld)).events).users =
      [⟨"1", "job_a"⟩, ⟨"4", "admin"⟩] := by
  have hok : (checkForZombieProxyUsers (exampleStore.over calmWorld)).result = .ok () := by decide
  refine ⟨hok, ?_⟩
  rw [Store.checkForZombieProxyUsers_commit exampleStore hok]
  decide

namespace Store

variable (s : Store)

/-! ### `terminate_unneeded_clusters` -/

theorem eligible_over {env : Env} {c : Cluster}
    (hcount : c.isTransient = true → ∃ n, jobCount (s.over env) c = .ok n) :
    eligible (s.over env) c = (c.isTransient && decide (s.jobExecutionCount c.id = 0) &&
      !decide (deltaSeconds c.updatedAt (env.utcnow c) < env.conf.minTransientClusterActiveTime)) := by
  cases hT : c.isTransient
  · simp [eligible, hT]
  · obtain ⟨n, hn⟩ := hcount hT
    have hc : jobCount (s.over env) c = .ok (s.jobExecutionCount c.id) := by
      unfold jobCount at hn ⊢
      rw [over_answer_of_read s (s.read_jobExecutionCount c.id)] at hn ⊢
      cases h : env.answer (.jobExecutionCount c.id) with
      | error e => rw [h] at hn; cases hn
      | ok m => rfl
    simp [eligible, hT, hc]

/-- A cluster the task can reach is unneeded exactly when it is active and passes the guards. -/
theorem unneeded_eq_eligible {env : Env} {c : Cluster}
    (hcount : c.status = "Active" → c.isTransient = true → ∃ n, jobCount (s.over env) c = .ok n) :
    s.unneeded env.conf.minTransientClusterActiveTime (env.utcnow c) c =
      (c.status == "Active" && eligible (s.over env) c) := by
  by_cases hA : c.status = "Active"
  · rw [eligible_over s (hcount hA)]
    simp [unneeded, hA, Bool.and_assoc]
  · simp only [unneeded, beq_false_of_ne hA, Bool.false_and]

/-- `terminate_unneeded_clusters` that returned ran its body to the end on each active cluster of
the store, and terminated and marked the clusters its guards let through. -/
theorem terminateUnneededClusters_over_ok {env : Env}
    (hok : (terminateUnneededClusters (s.over env)).result = .ok ()) :
    (∀ c ∈ s.clusterGetAll "Active", (terminateUnneededCluster (s.over env) c).result = .ok ()) ∧
    terminated (terminateUnneededClusters (s.over env)).events =
      ((s.clusterGetAll "Active").filter fun c => eligible (s.over env) c &&
        (s.over env).conf.useIdentityApiV3).map Cluster.id ∧
    statusUpdates (terminateUnneededClusters (s.over env)).events =
      ((s.clusterGetAll "Active").filter fun c => eligible (s.over env) c &&
        !(s.over env).conf.useIdentityApiV3 && c.status != "AwaitingTermination").map
        fun c => (c.id, "AwaitingTermination") := by
  have hget : (s.over env).answer (.clusterGetAll "Active") = .ok (s.clusterGetAll "Active") :=
    s.over_answer_of_framed_ok (s.read_clusterGetAll _)
      (by rwa [terminateUnneededClusters_framed] at hok)
  have hbody : ∀ c ∈ s.clusterGetAll "Active", (terminateUnneededCluster (s.over env) c).result =
      .ok () := forM_result_ok_iff.mp (by rwa [terminateUnneededClusters_of_active _ hget] at hok)
  have hiff c (hc : c ∈ s.clusterGetAll "Active") :=
    (terminateUnneededCluster_result_ok_iff _ c).mp (hbody c hc)
  obtain ⟨-, ht, hs⟩ := terminateUnneededCluster_loop _ _ (fun c hc => (hiff c hc).1)
    (fun c hc => (hiff c hc).2.1) (fun c hc => (hiff c hc).2.2)
  rw [terminated_terminateUnneededClusters _ hget, statusUpdates_terminateUnneededClusters _ hget]
  exact ⟨hbody, ht, hs⟩

/-- Committed to the store, `terminate_unneeded_clusters` that returned without the identity API v3
marks as awaiting termination the active clusters that pass its guards and are not marked yet. -/
theorem clusters_commit_terminateUnneededClusters {env : Env}
    (hok : (terminateUnneededClusters (s.over env)).result = .ok ())
    (hv : env.conf.useIdentityApiV3 = false) :
    (s.commit env (terminateUnneededClusters (s.over env)).events).clusters =
      s.clusters.map (mark (((s.clusterGetAll "Active").filter fun c => eligible (s.over env) c &&
        !(s.over env).conf.useIdentityApiV3 && c.status != "AwaitingTermination").map Cluster.id)
        "AwaitingTermination") := by
  obtain ⟨hbody, -, hs⟩ := s.terminateUnneededClusters_over_ok hok
  have hans : statusUpdates (env.answered (terminateUnneededClusters (s.over env)).events) =
      statusUpdates (terminateUnneededClusters (s.over env)).events := statusUpdates_answered fun u hu => by
    rw [hs] at hu
    obtain ⟨c, hc, rfl⟩ := List.mem_map.mp hu
    obtain ⟨hcs, hp⟩ := List.mem_filter.mp hc
    simp only [Bool.and_eq_true, bne_iff_ne, ne_eq, Bool.not_eq_true', over_conf] at hp
    rw [← s.over_answer_isOk env,
      ((terminateUnneededCluster_result_ok_iff _ c).mp (hbody c hcs)).2.2 hp.1.1 hp.1.2 hp.2]
    rfl
  rw [clusters_commit s (terminated_terminateUnneededClusters_of_not_v3
      (show (s.over env).conf.useIdentityApiV3 = false from hv))
      (fun _ _ => status_of_clusterUpdate_mem (by rw [hs])),
    hans, hs, List.map_map]
  rfl

/-- Committed to the store, `terminate_unneeded_clusters` that returned with the identity API v3
leaves each active cluster that passes its guards, and whose termination returned, as the
termination leaves it. -/
theorem clusters_commit_terminateUnneededClusters_of_v3 {env : Env}
    (hok : (terminateUnneededClusters (s.over env)).result = .ok ())
    (hv : env.conf.useIdentityApiV3 = true) :
    (s.commit env (terminateUnneededClusters (s.over env)).events).clusters =
      s.clusters.filterMap fun c =>
        if c.id ∈ (((s.clusterGetAll "Active").filter fun c => eligible (s.over env) c &&
            (s.over env).conf.useIdentityApiV3).map Cluster.id).filter
            fun id => (env.answer (.terminateCluster id)).isOk
        then terminatedRow (env.terminatedStatus c.id) c else some c := by
  have hs : (statusUpdates (env.answered (terminateUnneededClusters (s.over env)).events)).Sublist
      (statusUpdates (terminateUnneededClusters (s.over env)).events) :=
    env.filterMap_answered_sublist _ _
  rw [statusUpdates_terminateUnneededClusters_of_v3
    (show (s.over env).conf.useIdentityApiV3 = true from hv), List.sublist_nil] at hs
  rw [clusters_commit_rows]
  exact List.filterMap_congr fun c _ => by
    rw [rowAfter_terminations hs, terminated_answered, (s.terminateUnneededClusters_over_ok hok).2.1]

/-- `terminate_unneeded_clusters` that returns, committed to the store, marks exactly the unneeded
clusters as awaiting termination when the identity API v3 is off, and leaves each unneeded cluster
whose termination returns as the termination leaves it when it is on: the task refines
`Store.markUnneeded` and `Store.terminateUnneeded`. -/
theorem terminateUnneededClusters_commit {env : Env}
    (hok : (terminateUnneededClusters (s.over env)).result = .ok ()) :
    s.commit env (terminateUnneededClusters (s.over env)).events =
      if env.conf.useIdentityApiV3 then
        s.terminateUnneeded env.conf.minTransientClusterActiveTime env.utcnow
          (fun id => (env.answer (.terminateCluster id)).isOk) env.terminatedStatus
      else s.markUnneeded env.conf.minTransientClusterActiveTime env.utcnow := by
  have hbody := (s.terminateUnneededClusters_over_ok hok).1
  have hcount c (hc : c ∈ s.clusters) (hA : c.status = "Active") :=
    ((terminateUnneededCluster_result_ok_iff _ c).mp
      (hbody c (List.mem_filter.mpr ⟨hc, by simpa using hA⟩))).1
  have hjobs : (s.commit env (terminateUnneededClusters (s.over env)).events).jobs = s.jobs :=
    jobs_commit s (updateJobStatuses_not_mem_terminateUnneededClusters _)
  have husers : (s.commit env (terminateUnneededClusters (s.over env)).events).users = s.users :=
    users_commit_of_deleted_nil s (deleted_terminateUnneededClusters _)
  cases hv : env.conf.useIdentityApiV3
  · refine Store.ext ?_ hjobs husers
    rw [s.clusters_commit_terminateUnneededClusters hok hv]
    refine List.map_congr_left fun c hc => ?_
    have hmem : c.id ∈ ((s.clusterGetAll "Active").filter fun c => eligible (s.over env) c &&
          !(s.over env).conf.useIdentityApiV3 && c.status != "AwaitingTermination").map Cluster.id ↔
        s.unneeded env.conf.minTransientClusterActiveTime (env.utcnow c) c = true := by
      rw [clusterGetAll, List.filter_filter, mem_map_filter_iff s.clusters_nodup hc,
        unneeded_eq_eligible s (hcount c hc)]
      by_cases hA : c.status = "Active" <;> simp [hA, hv]
    simp only [mark, hmem]
  · refine Store.ext ?_ hjobs husers
    rw [s.clusters_commit_terminateUnneededClusters_of_v3 hok hv]
    refine List.filterMap_congr fun c hc => ?_
    have hmem : c.id ∈ ((s.clusterGetAll "Active").filter fun c => eligible (s.over env) c &&
          (s.over env).conf.useIdentityApiV3).map Cluster.id ↔
        s.unneeded env.conf.minTransientClusterActiveTime (env.utcnow c) c = true := by
      rw [clusterGetAll, List.filter_filter, mem_map_filter_iff s.clusters_nodup hc,
        unneeded_eq_eligible s (hcount c hc)]
      simp [hv, and_comm]
    simp only [List.mem_filter, hmem, Bool.and_eq_true]

/-- There `terminate_unneeded_clusters` returns and marks the idle transient cluster only: the
permanent one is not transient, and the third is not active. -/
theorem terminate_marks_idle_cluster :
    (terminateUnneededClusters (exampleStore.over calmWorld)).result = .ok () ∧
    ((exampleStore.commit calmWorld
      (terminateUnneededClusters (exampleStore.over calmWorld)).events).clusters.map
        Cluster.status) = ["AwaitingTermination", "Active", "AwaitingTermination"] := by
  have hel : eligible (exampleStore.over calmWorld) ⟨"c1", "etl", "Active", true, 0⟩ = true :=
    (eligible_iff _ _).mpr ⟨rfl, by decide, by norm_num [deltaSeconds, calmWorld]⟩
  have hok : (terminateUnneededClusters (exampleStore.over calmWorld)).result = .ok () := by
    rw [terminateUnneededClusters_of_active _
      (show (exampleStore.over calmWorld).answer (.clusterGetAll "Active") =
        .ok [⟨"c1", "etl", "Active", true, 0⟩, ⟨"c2", "db", "Active", false, 0⟩] from rfl),
      List.forM_cons', terminateUnneededCluster_eligible _ hel]
    decide
  refine ⟨hok, ?_⟩
  rw [terminateUnneededClusters_commit exampleStore hok]
  simp only [markUnneeded, unneeded, deltaSeconds_lt_iff]
  decide

/-! ### Schedules -/

theorem statusUpdates_run_sublist (t : Task) (env : Env) :
    (statusUpdates (t.run (s.over env)).events).Sublist
      ((s.clusterGetAll "Active").map fun c => (c.id, "AwaitingTermination")) := by
  have hget : (s.over env).answer (.clusterGetAll "Active") =
      (env.answer (.clusterGetAll "Active")).map fun _ => s.clusterGetAll "Active" :=
    over_answer_of_read s (s.read_clusterGetAll _)
  cases t with
  | updateJobStatuses =>
    rw [Task.run, updateJobStatuses_framed, statusUpdates, filterMap_framed _ fun _ => rfl]
    exact List.nil_sublist _
  | terminateUnneededClusters =>
    cases hlist : env.answer (.clusterGetAll "Active") with
    | error e =>
      rw [hlist] at hget
      rw [Task.run, statusUpdates_terminateUnneededClusters_of_error _ hget]
      exact List.nil_sublist _
    | ok cs =>
      rw [hlist] at hget
      exact statusUpdates_terminateUnneededClusters_sublist _ hget
  | checkForZombieProxyUsers =>
    rw [Task.run, statusUpdates_checkForZombieProxyUsers]
    exact List.nil_sublist _

/-- Any run of a task against the store deletes only zombies of the store. -/
theorem deleted_run (t : Task) (env : Env) :
    ∀ id ∈ deleted (t.run (s.over env)).events,
      ∃ u ∈ s.users, u.id = id ∧ s.zombie env.jobStatusesTerminated u = true := by
  cases t with
  | updateJobStatuses =>
    rw [Task.run, updateJobStatuses_framed, deleted, filterMap_framed _ fun _ => rfl]
    nofun
  | terminateUnneededClusters =>
    rw [Task.run, deleted_terminateUnneededClusters]
    nofun
  | checkForZombieProxyUsers => exact deleted_checkForZombieProxyUsers_over s env

theorem deleted_run_sublist (t : Task) (env : Env) :
    (deleted (t.run (s.over env)).events).Sublist (s.users.map User.id) := by
  cases t with
  | updateJobStatuses =>
    rw [Task.run, updateJobStatuses_framed, deleted, filterMap_framed _ fun _ => rfl]
    exact List.nil_sublist _
  | terminateUnneededClusters =>
    rw [Task.run, deleted_terminateUnneededClusters]
    exact List.nil_sublist _
  | checkForZombieProxyUsers =>
    have hget : (s.over env).answer .proxyDomainUsersList =
        (env.answer .proxyDomainUsersList).map fun _ => s.users :=
      over_answer_of_read s s.read_proxyDomainUsersList
    cases hlist : env.answer .proxyDomainUsersList with
    | error e =>
      rw [hlist] at hget
      rw [Task.run, deleted_checkForZombieProxyUsers_of_error _ hget]
      exact List.nil_sublist _
    | ok us =>
      rw [hlist] at hget
      exact deleted_checkForZombieProxyUsers_sublist _ hget

theorem terminated_run (t : Task) (env : Env) :
    ∀ id ∈ terminated (t.run (s.over env)).events, ∃ c ∈ s.clusterGetAll "Active", c.id = id := by
  have hget : (s.over env).answer (.clusterGetAll "Active") =
      (env.answer (.clusterGetAll "Active")).map fun _ => s.clusterGetAll "Active" :=
    over_answer_of_read s (s.read_clusterGetAll _)
  intro id hid
  cases t with
  | updateJobStatuses =>
    obtain ⟨ev, hev, hf⟩ := List.mem_filterMap.mp hid
    rcases mem_updateJobStatuses_events _ hev with ⟨_, rfl⟩ | rfl <;> cases hf
  | checkForZombieProxyUsers =>
    rw [Task.run, terminated_checkForZombieProxyUsers] at hid
    cases hid
  | terminateUnneededClusters =>
    cases hlist : env.answer (.clusterGetAll "Active") with
    | error e =>
      rw [hlist] at hget
      rw [Task.run, terminated_terminateUnneededClusters_of_error _ hget] at hid
      cases hid
    | ok cs =>
      rw [hlist] at hget
      rw [Task.run, terminated_terminateUnneededClusters _ hget] at hid
      obtain ⟨ev, hev, hf⟩ := List.mem_filterMap.mp hid
      obtain ⟨c, hc, hev⟩ := mem_forM_events hev
      refine ⟨c, hc, ?_⟩
      rcases terminateUnneededCluster_events _ hev with
        rfl | rfl | ⟨-, ⟨-, rfl | rfl⟩ | ⟨-, -, rfl⟩⟩ <;> cases hf
      rfl

/-- No run both marks and terminates clusters: only `terminate_unneeded_clusters` does either, the
one without the identity API v3 and the other with it. -/
theorem statusUpdates_or_terminated_run (t : Task) (env : Env) :
    statusUpdates (t.run env).events = [] ∨ terminated (t.run env).events = [] := by
  cases t with
  | updateJobStatuses =>
    refine .inl (List.filterMap_eq_nil_iff.mpr fun _ hev => ?_)
    rcases mem_updateJobStatuses_events env hev with ⟨_, rfl⟩ | rfl <;> rfl
  | terminateUnneededClusters =>
    cases hv : env.conf.useIdentityApiV3
    · exact .inr (terminated_terminateUnneededClusters_of_not_v3 hv)
    · exact .inl (statusUpdates_terminateUnneededClusters_of_v3 hv)
  | checkForZombieProxyUsers => exact .inl (statusUpdates_checkForZombieProxyUsers env)

/-- A run against the store leaves a cluster of the store that is not active as it is. -/
theorem rowAfter_run_of_not_active {t : Task} {env : Env} {c : Cluster} (hc : c ∈ s.clusters)
    (hA : c.status ≠ "Active") :
    rowAfter env (env.answered (t.run (s.over env)).events) c = some c := by
  have hlisted : ∀ d ∈ s.clusterGetAll "Active", d.id ≠ c.id := fun d hd he => by
    obtain ⟨hds, hdA⟩ := List.mem_filter.mp hd
    obtain rfl := List.inj_on_of_nodup_map s.clusters_nodup hds hc he
    exact hA (by simpa using hdA)
  have hts : (terminated (env.answered (t.run (s.over env)).events)).Sublist
      (terminated (t.run (s.over env)).events) := env.filterMap_answered_sublist _ _
  refine rowAfter_of_not_written (fun hu => ?_) (fun ht => ?_)
  · obtain ⟨u, hu, he⟩ := List.mem_map.mp hu
    obtain ⟨d, hd, rfl⟩ := List.mem_map.mp (((env.filterMap_answered_sublist _ _).trans
      (s.statusUpdates_run_sublist t env)).subset hu)
    exact hlisted d hd he
  · obtain ⟨d, hd, he⟩ := s.terminated_run t env c.id (hts.subset ht)
    exact hlisted d hd he

/-- A cluster that a run against the store marks is awaiting termination after the run. -/
theorem rowAfter_run_of_marked {t : Task} {env : Env} {c c' : Cluster}
    (hm : c.id ∈ (statusUpdates (env.answered (t.run (s.over env)).events)).map Prod.fst)
    (hrow : rowAfter env (env.answered (t.run (s.over env)).events) c = some c') :
    c'.status = "AwaitingTermination" := by
  have hsub : (statusUpdates (env.answered (t.run (s.over env)).events)).Sublist
      (statusUpdates (t.run (s.over env)).events) := env.filterMap_answered_sublist _ _
  have hts : (terminated (env.answered (t.run (s.over env)).events)).Sublist
      (terminated (t.run (s.over env)).events) := env.filterMap_answered_sublist _ _
  have ht : terminated (env.answered (t.run (s.over env)).events) = [] := by
    rcases statusUpdates_or_terminated_run t (s.over env) with hs | ht
    · rw [hs, List.sublist_nil] at hsub
      simp [hsub] at hm
    · rwa [ht, List.sublist_nil] at hts
  rw [rowAfter_marks ht fun _ _ => status_of_clusterUpdate_mem
    (hsub.trans (s.statusUpdates_run_sublist t env)), Option.some.injEq] at hrow
  rw [← hrow, mark, if_pos hm]

/-- The invariant of the writes over a schedule: the clusters marked so far are distinct, and each
is awaiting termination in the store; the users deleted so far are distinct, and none is in the
store. -/
structure WrittenOnce (marks dels : List String) (s : Store) : Prop where
  marks_nodup : marks.Nodup
  awaiting : ∀ c ∈ s.clusters, c.id ∈ marks → c.status = "AwaitingTermination"
  dels_nodup : dels.Nodup
  gone : ∀ u ∈ s.users, u.id ∉ dels

/-- One run keeps the invariant: it marks active clusters only, which no earlier run marked, and
deletes users of the store only, which no earlier run deleted; what it marks stays marked, and what
it deletes stays deleted. -/
theorem WrittenOnce.step {marks dels : List String} {s : Store} (h : WrittenOnce marks dels s)
    (t : Task) (env : Env) :
    WrittenOnce
      (marks ++ (statusUpdates (env.answered (t.run (s.over env)).events)).map Prod.fst)
      (dels ++ deleted (env.answered (t.run (s.over env)).events))
      (s.commit env (t.run (s.over env)).events) := by
  have hsub := (env.filterMap_answered_sublist _ _).trans (s.statusUpdates_run_sublist t env)
  have hmarks : ((statusUpdates (env.answered (t.run (s.over env)).events)).map Prod.fst).Sublist
      ((s.clusterGetAll "Active").map Cluster.id) := by
    simpa only [List.map_map, Function.comp_def] using hsub.map Prod.fst
  have hdels := (env.filterMap_answered_sublist _ _).trans (s.deleted_run_sublist t env)
  constructor
  · refine List.nodup_append.mpr ⟨h.marks_nodup,
      (s.clusters_nodup.sublist ((List.filter_sublist _).map _)).sublist hmarks, fun a ha hb => ?_⟩
    obtain ⟨c, hc, rfl⟩ := List.mem_map.mp (hmarks.subset hb)
    obtain ⟨hcs, hA⟩ := List.mem_filter.mp hc
    rw [h.awaiting c hcs ha] at hA
    cases hA
  · rw [clusters_commit_rows]
    intro c' hc' hid
    obtain ⟨c, hc, hrow⟩ := List.mem_filterMap.mp hc'
    rw [rowAfter_id hrow] at hid
    rcases List.mem_append.mp hid with hold | hnew
    · have hAT := h.awaiting c hc hold
      rw [s.rowAfter_run_of_not_active hc (by rw [hAT]; decide), Option.some.injEq] at hrow
      exact hrow ▸ hAT
    · exact s.rowAfter_run_of_marked hnew hrow
  · refine List.nodup_append.mpr ⟨h.dels_nodup, s.users_nodup.sublist hdels, fun a ha hb => ?_⟩
    obtain ⟨u, hu, rfl⟩ := List.mem_map.mp (hdels.subset hb)
    exact h.gone u hu ha
  · rw [users_commit]
    intro u hu hid
    obtain ⟨hus, hnew⟩ := List.mem_filter.mp hu
    rcases List.mem_append.mp hid with hold | hnew'
    · exact h.gone u hus hold
    · exact of_decide_eq_true hnew hnew'

theorem WrittenOnce.runAll {marks dels : List String} {s : Store} (h : WrittenOnce marks dels s)
    (sched : List (Task × Env)) :
    WrittenOnce (marks ++ marked (s.runAll sched).1) (dels ++ removed (s.runAll sched).1)
      (s.runAll sched).2 := by
  induction sched generalizing marks dels s with
  | nil => simpa [Store.runAll, marked, removed] using h
  | cons r sched ih =>
    simpa only [Store.runAll, marked, removed, List.flatMap_cons, List.append_assoc] using
      ih (h.step r.1 r.2)

/-- Over any schedule of the periodic tasks against the store, in any worlds and whatever their
calls raise, no row is written twice.  The `cluster_update` calls that did not raise name distinct
clusters, and each of them is awaiting termination when the schedule ends; the `proxy_user_delete`
calls that did not raise name distinct users, and none of them is in the proxy domain at the end. -/
theorem runAll_writes_each_row_once (sched : List (Task × Env)) :
    (marked (s.runAll sched).1).Nodup ∧
    (∀ c ∈ (s.runAll sched).2.clusters,
      c.id ∈ marked (s.runAll sched).1 → c.status = "AwaitingTermination") ∧
    (removed (s.runAll sched).1).Nodup ∧
    ∀ u ∈ (s.runAll sched).2.users, u.id ∉ removed (s.runAll sched).1 := by
  have h := (WrittenOnce.mk List.nodup_nil (fun _ _ h => absurd h (List.not_mem_nil _))
    List.nodup_nil fun _ _ => List.not_mem_nil _ : WrittenOnce [] [] s).runAll sched
  simp only [List.nil_append] at h
  exact ⟨h.marks_nodup, h.awaiting, h.dels_nodup, h.gone⟩

/-- No user of the store is a zombie. -/
def NoZombie (terminal : List String) (s : Store) : Prop :=
  ∀ u ∈ s.users, s.zombie terminal u = false

theorem zombie_commit {env : Env} {evs : List Call} (h : .updateJobStatuses ∉ evs) :
    (s.commit env evs).zombie = s.zombie := by
  funext terminal u
  simp only [zombie, jobExecutionGet, jobs_commit s h]

/-- A run that writes no job execution keeps a store without zombies without zombies: it only
deletes users. -/
theorem NoZombie.commit {terminal : List String} {s : Store} (h : NoZombie terminal s) (env : Env)
    {evs : List Call} (hjobs : .updateJobStatuses ∉ evs) : NoZombie terminal (s.commit env evs) :=
  fun u hu => by
    rw [zombie_commit s hjobs, h u (List.mem_filter.mp (s.users_commit env evs ▸ hu)).1]

theorem NoZombie.deleted_run {terminal : List String} {s : Store} (h : NoZombie terminal s)
    (t : Task) {env : Env} (hterm : env.jobStatusesTerminated = terminal) :
    deleted (t.run (s.over env)).events = [] :=
  List.eq_nil_iff_forall_not_mem.mpr fun id hid => by
    obtain ⟨u, hu, -, hz⟩ := s.deleted_run t env id hid
    rw [hterm, h u hu] at hz
    cases hz

theorem updateJobStatuses_not_mem_run {t : Task} (env : Env)
    (h : t = .checkForZombieProxyUsers ∨ t = .terminateUnneededClusters) :
    .updateJobStatuses ∉ (t.run env).events := by
  rcases h with rfl | rfl
  · exact updateJobStatuses_not_mem_checkForZombieProxyUsers env
  · exact updateJobStatuses_not_mem_terminateUnneededClusters env

/-- A sweep for zombie proxy users that returns leaves no zombie in the store, and so none for a
later run to delete: over any schedule after it of sweeps and of runs of
`terminate_unneeded_clusters` without the identity API v3, the runs that write no job execution, in
worlds that agree with it on the terminal job statuses, no run deletes a proxy user. -/
theorem sweep_leaves_no_zombie (env : Env) (sched : List (Task × Env))
    (hok : (checkForZombieProxyUsers (s.over env)).result = .ok ())
    (hterm : ∀ r ∈ sched, r.2.jobStatusesTerminated = env.jobStatusesTerminated)
    (hruns : ∀ r ∈ sched, r.1 = .checkForZombieProxyUsers ∨
      r.1 = .terminateUnneededClusters ∧ r.2.conf.useIdentityApiV3 = false) :
    NoZombie env.jobStatusesTerminated
        (s.commit env (checkForZombieProxyUsers (s.over env)).events) ∧
      ∀ r ∈ ((s.commit env (checkForZombieProxyUsers (s.over env)).events).runAll sched).1,
        deleted r.2 = [] := by
  have hnz : NoZombie env.jobStatusesTerminated
      (s.commit env (checkForZombieProxyUsers (s.over env)).events) := fun u hu => by
    rw [zombie_commit s (updateJobStatuses_not_mem_checkForZombieProxyUsers _)]
    rw [s.users_commit_checkForZombieProxyUsers hok] at hu
    simpa using (List.mem_filter.mp hu).2
  refine ⟨hnz, ?_⟩
  clear hok
  generalize s.commit env _ = s' at hnz
  induction sched generalizing s' with
  | nil => nofun
  | cons r sched ih =>
    intro r' hr'
    rcases List.mem_cons.mp hr' with rfl | hr'
    · exact hnz.deleted_run r.1 (hterm r (List.mem_cons_self r sched))
    · exact ih (fun r hr => hterm r (List.mem_cons_of_mem _ hr))
        (fun r hr => hruns r (List.mem_cons_of_mem _ hr)) _
        (hnz.commit _ (updateJobStatuses_not_mem_run _
          ((hruns r (List.mem_cons_self r sched)).imp_right And.left))) r' hr'

/-- After the sweep of the example, a second sweep and a run of `terminate_unneeded_clusters` delete
no user. -/
theorem second_sweep_deletes_nobody :
    ((exampleStore.commit calmWorld
      (checkForZombieProxyUsers (exampleStore.over calmWorld)).events).runAll
        [(.checkForZombieProxyUsers, calmWorld), (.terminateUnneededClusters, calmWorld)]).1.flatMap
      (fun r => deleted r.2) = [] :=
  List.flatMap_eq_nil_iff.mpr
    (sweep_leaves_no_zombie exampleStore calmWorld _ (by decide) (by decide) (by decide)).2

end Store

end Sahara.Service

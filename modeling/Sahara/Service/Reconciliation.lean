import Sahara.Service.Periodic

/-! The reconciliation loops of the periodic tasks.  `terminate_unneeded_clusters` acts exactly on
the clusters that pass its three guards, and drops a failure of the termination itself and no other;
`check_for_zombie_proxy_users` deletes exactly the users named after a job execution that is missing
or finished, and drops no failure.  Each task leaves no request context when it returns, and the
administrator's when an exception escapes it. -/

namespace Sahara.Service

open Run SaharaPeriodicTasks

variable (env : Env)

/-! ### The body of `terminate_unneeded_clusters` -/

/-- The answer of `conductor.job_execution_count(ctx, end_time=None, cluster_id=c.id)`. -/
def jobCount (c : Cluster) : Except PyError Nat := env.answer (.jobExecutionCount c.id)

/-- A cluster that passes the three guards of `terminate_unneeded_clusters`: transient, with no job
execution without an end time, and last updated at least the minimal lifetime before the clock
reading. -/
def eligible (c : Cluster) : Bool :=
  c.isTransient && jobCount env c = .ok 0 &&
    !decide (deltaSeconds c.updatedAt (env.utcnow c) < env.conf.minTransientClusterActiveTime)

/-- The clusters a run terminates, in order. -/
def terminated : List Call → List String :=
  List.filterMap fun | .terminateCluster id => some id | _ => none

/-- The status updates of a run, in order. -/
def statusUpdates : List Call → List (String × String) :=
  List.filterMap fun | .clusterUpdate id status => some (id, status) | _ => none

@[simp] theorem terminated_append (evs evs' : List Call) :
    terminated (evs ++ evs') = terminated evs ++ terminated evs' := List.filterMap_append ..

@[simp] theorem statusUpdates_append (evs evs' : List Call) :
    statusUpdates (evs ++ evs') = statusUpdates evs ++ statusUpdates evs' :=
  List.filterMap_append ..

theorem eligible_iff (c : Cluster) : eligible env c = true ↔ c.isTransient = true ∧
    jobCount env c = .ok 0 ∧
    (env.conf.minTransientClusterActiveTime : ℚ) ≤ deltaSeconds c.updatedAt (env.utcnow c) := by
  simp [eligible, and_assoc]

theorem terminateUnneededCluster_eligible {c : Cluster} (h : eligible env c = true) :
    terminateUnneededCluster env c = ⟨[.jobExecutionCount c.id, .utcnow] ++
      (terminateEligible env c).events, (terminateEligible env c).result⟩ := by
  simp only [eligible, Bool.and_eq_true, decide_eq_true_eq, Bool.not_eq_true',
    decide_eq_false_iff_not] at h
  obtain ⟨⟨hT, hc⟩, hs⟩ := h
  simp only [jobCount] at hc
  simp [terminateUnneededCluster, ask, hT, hc, hs]

theorem terminateUnneededCluster_not_eligible {c : Cluster} (h : eligible env c = false) :
    (∀ ev ∈ (terminateUnneededCluster env c).events, ev = .jobExecutionCount c.id ∨ ev = .utcnow) ∧
    (terminateUnneededCluster env c).result =
      if c.isTransient then (jobCount env c).map fun _ => () else .ok () := by
  unfold terminateUnneededCluster
  unfold eligible at h
  cases hT : c.isTransient
  · simp [hT]
  · cases hc : jobCount env c with
    | error e =>
      have hc' : env.answer (.jobExecutionCount c.id) = .error e := hc
      simp only [Bool.not_true, Bool.false_eq_true, ite_false, ask, hc', invoke_bind,
        List.mem_singleton, forall_eq, true_or, true_and]
      rfl
    | ok n =>
      have hc' : env.answer (.jobExecutionCount c.id) = .ok n := hc
      by_cases hs : deltaSeconds c.updatedAt (env.utcnow c) < env.conf.minTransientClusterActiveTime
      · by_cases hn : 0 < n <;>
          simp only [Bool.not_true, Bool.false_eq_true, ite_false, ask, hc', gt_iff_lt, invoke_bind,
            hs, hn, ite_true, events_pure, result_pure, List.mem_cons, List.mem_singleton,
            List.not_mem_nil, false_implies, implies_true, forall_eq_or_imp, forall_eq, or_true,
            true_or, true_and, and_true] <;>
          rfl
      · have hn : n ≠ 0 := by simp_all
        simp only [Bool.not_true, Bool.false_eq_true, ite_false, ask, hc', gt_iff_lt, invoke_bind,
          Nat.pos_of_ne_zero hn, ite_true, events_pure, result_pure, List.mem_singleton, forall_eq,
          true_or, true_and]
        rfl

theorem terminateEligible_v3 {c : Cluster} (h : env.conf.useIdentityApiV3 = true) :
    terminateEligible env c = match env.answer (.useOsAdminAuthToken c.id) with
      | .ok _ => ⟨[.useOsAdminAuthToken c.id, .terminateCluster c.id], .ok ()⟩
      | .error e => ⟨[.useOsAdminAuthToken c.id], .error e⟩ := by
  simp only [terminateEligible, h, ite_true, ask]
  cases env.answer (.useOsAdminAuthToken c.id) <;> cases env.answer (.terminateCluster c.id) <;> rfl

theorem terminateEligible_not_v3 {c : Cluster} (h : env.conf.useIdentityApiV3 = false) :
    terminateEligible env c = if c.status != "AwaitingTermination" then
      ⟨[.clusterUpdate c.id "AwaitingTermination"],
        env.answer (.clusterUpdate c.id "AwaitingTermination")⟩ else pure () := by
  simp only [terminateEligible, h]
  rfl

theorem terminateUnneededCluster_events {c : Cluster} {ev : Call}
    (h : ev ∈ (terminateUnneededCluster env c).events) :
    ev = .jobExecutionCount c.id ∨ ev = .utcnow ∨ eligible env c = true ∧
      (env.conf.useIdentityApiV3 = true ∧
          (ev = .useOsAdminAuthToken c.id ∨ ev = .terminateCluster c.id) ∨
        env.conf.useIdentityApiV3 = false ∧ c.status ≠ "AwaitingTermination" ∧
          ev = .clusterUpdate c.id "AwaitingTermination") := by
  cases he : eligible env c
  · rcases (terminateUnneededCluster_not_eligible env he).1 ev h with h | h <;> simp [h]
  · rw [terminateUnneededCluster_eligible env he] at h
    rcases List.mem_append.mp h with h | h
    · simp only [List.mem_cons, List.mem_singleton, List.not_mem_nil, or_false] at h
      rcases h with h | h <;> simp [h]
    · refine .inr (.inr ⟨rfl, ?_⟩)
      cases hv : env.conf.useIdentityApiV3
      · rw [terminateEligible_not_v3 env hv] at h
        split at h
        · simp_all
        · cases h
      · rw [terminateEligible_v3 env hv] at h
        split at h <;> simp_all

theorem terminated_terminateUnneededCluster {c : Cluster}
    (htoken : eligible env c = true → env.conf.useIdentityApiV3 = true →
      env.answer (.useOsAdminAuthToken c.id) = .ok ()) :
    terminated (terminateUnneededCluster env c).events =
      if eligible env c && env.conf.useIdentityApiV3 then [c.id] else [] := by
  cases he : eligible env c
  · refine List.filterMap_eq_nil_iff.mpr fun ev hm => ?_
    rcases (terminateUnneededCluster_not_eligible env he).1 ev hm with rfl | rfl <;> rfl
  · rw [terminateUnneededCluster_eligible env he]
    cases hv : env.conf.useIdentityApiV3
    · rw [terminateEligible_not_v3 env hv]
      split <;> rfl
    · rw [terminateEligible_v3 env hv, htoken he hv]
      rfl

theorem statusUpdates_terminateUnneededCluster (c : Cluster) :
    statusUpdates (terminateUnneededCluster env c).events =
      if eligible env c && !env.conf.useIdentityApiV3 && c.status != "AwaitingTermination" then
        [(c.id, "AwaitingTermination")] else [] := by
  cases he : eligible env c
  · refine List.filterMap_eq_nil_iff.mpr fun ev hm => ?_
    rcases (terminateUnneededCluster_not_eligible env he).1 ev hm with rfl | rfl <;> rfl
  · rw [terminateUnneededCluster_eligible env he]
    cases hv : env.conf.useIdentityApiV3
    · rw [terminateEligible_not_v3 env hv]
      by_cases hs : c.status = "AwaitingTermination" <;> simp [hs, statusUpdates]
    · rw [terminateEligible_v3 env hv]
      split <;> rfl

/-- The body ends normally exactly when the count does not raise, nor, past the guards, the trust or
the status update: a failure of `ops.terminate_cluster` is the one it drops. -/
theorem terminateUnneededCluster_result_ok_iff (c : Cluster) :
    (terminateUnneededCluster env c).result = .ok () ↔
      (c.isTransient = true → ∃ n, jobCount env c = .ok n) ∧
      (eligible env c = true → env.conf.useIdentityApiV3 = true →
        env.answer (.useOsAdminAuthToken c.id) = .ok ()) ∧
      (eligible env c = true → env.conf.useIdentityApiV3 = false →
        c.status ≠ "AwaitingTermination" →
        env.answer (.clusterUpdate c.id "AwaitingTermination") = .ok ()) := by
  cases he : eligible env c
  · rw [(terminateUnneededCluster_not_eligible env he).2]
    cases hT : c.isTransient <;> cases hc : jobCount env c <;> simp [hc, Except.map]
  · obtain ⟨hT, hc, -⟩ := (eligible_iff env c).mp he
    rw [terminateUnneededCluster_eligible env he]
    cases hv : env.conf.useIdentityApiV3
    · rw [terminateEligible_not_v3 env hv]
      by_cases hs : c.status = "AwaitingTermination" <;> simp [hs, hT, hc]
    · rw [terminateEligible_v3 env hv]
      cases env.answer (.useOsAdminAuthToken c.id) <;>
        simp only [hT, hc, reduceCtorEq, Except.ok.injEq, exists_eq', imp_self, imp_false,
          not_true_eq_false, forall_const, Bool.true_eq_false, ne_eq, IsEmpty.forall_iff, and_true,
          and_false, true_and, true_iff]
      rfl

/-- The loop of `terminate_unneeded_clusters`, when the calls it makes do not raise apart from the
terminations, ends normally and terminates, or marks, exactly the clusters past the guards, in the
order of the list. -/
theorem terminateUnneededCluster_loop (clusters : List Cluster)
    (hcount : ∀ c ∈ clusters, c.isTransient = true → ∃ n, jobCount env c = .ok n)
    (htoken : ∀ c ∈ clusters, eligible env c = true → env.conf.useIdentityApiV3 = true →
      env.answer (.useOsAdminAuthToken c.id) = .ok ())
    (hupdate : ∀ c ∈ clusters, eligible env c = true → env.conf.useIdentityApiV3 = false →
      c.status ≠ "AwaitingTermination" →
      env.answer (.clusterUpdate c.id "AwaitingTermination") = .ok ()) :
    (clusters.forM (terminateUnneededCluster env)).result = .ok () ∧
    terminated (clusters.forM (terminateUnneededCluster env)).events =
      (clusters.filter fun c => eligible env c && env.conf.useIdentityApiV3).map Cluster.id ∧
    statusUpdates (clusters.forM (terminateUnneededCluster env)).events =
      (clusters.filter fun c => eligible env c && !env.conf.useIdentityApiV3 &&
        c.status != "AwaitingTermination").map fun c => (c.id, "AwaitingTermination") := by
  induction clusters with
  | nil => exact ⟨rfl, rfl, rfl⟩
  | cons c cs ih =>
    have mem := List.mem_cons_self c cs
    have hr := (terminateUnneededCluster_result_ok_iff env c).mpr
      ⟨hcount c mem, htoken c mem, hupdate c mem⟩
    have ht := terminated_terminateUnneededCluster env (htoken c mem)
    have hs := statusUpdates_terminateUnneededCluster env c
    obtain ⟨ihr, iht, ihs⟩ := ih (fun d hd => hcount d (List.mem_cons_of_mem c hd))
      (fun d hd => htoken d (List.mem_cons_of_mem c hd))
      (fun d hd => hupdate d (List.mem_cons_of_mem c hd))
    rw [List.forM_cons', bind_ok hr]
    refine ⟨ihr, ?_, ?_⟩
    · simp only [terminated_append, ht, iht, List.filter_cons]
      split <;> simp_all
    · simp only [statusUpdates_append, hs, ihs, List.filter_cons]
      split <;> simp_all

theorem terminateUnneededClusters_of_active {clusters : List Cluster}
    (hget : env.answer (.clusterGetAll "Active") = .ok clusters) :
    terminateUnneededClusters env = framed ⟨.clusterGetAll "Active" ::
      (clusters.forM (terminateUnneededCluster env)).events,
      (clusters.forM (terminateUnneededCluster env)).result⟩ := by
  rw [terminateUnneededClusters_framed, ask_bind_of_ok env hget]

theorem terminated_terminateUnneededClusters {clusters : List Cluster}
    (hget : env.answer (.clusterGetAll "Active") = .ok clusters) :
    terminated (terminateUnneededClusters env).events =
      terminated (clusters.forM (terminateUnneededCluster env)).events := by
  rw [terminateUnneededClusters_of_active env hget, terminated, filterMap_framed _ fun _ => rfl]
  rfl

theorem statusUpdates_terminateUnneededClusters {clusters : List Cluster}
    (hget : env.answer (.clusterGetAll "Active") = .ok clusters) :
    statusUpdates (terminateUnneededClusters env).events =
      statusUpdates (clusters.forM (terminateUnneededCluster env)).events := by
  rw [terminateUnneededClusters_of_active env hget, statusUpdates, filterMap_framed _ fun _ => rfl]
  rfl

/-- `terminate_unneeded_clusters` never terminates or marks a cluster short of its guards; and when
the calls it makes do not raise, apart from the terminations, it terminates (with the identity API
v3) or marks as awaiting termination (without it, unless already so) exactly the clusters past the
guards, once each, in the order `cluster_get_all` returned them. -/
theorem terminateUnneededClusters_acts_on_eligible (clusters : List Cluster)
    (hget : env.answer (.clusterGetAll "Active") = .ok clusters) :
    (∀ id ∈ terminated (terminateUnneededClusters env).events,
      ∃ c ∈ clusters, c.id = id ∧ eligible env c = true) ∧
    (∀ u ∈ statusUpdates (terminateUnneededClusters env).events,
      ∃ c ∈ clusters, u = (c.id, "AwaitingTermination") ∧ eligible env c = true) ∧
    ((∀ c ∈ clusters, c.isTransient = true → ∃ n, jobCount env c = .ok n) →
      (env.conf.useIdentityApiV3 = true →
        (∀ c ∈ clusters, eligible env c = true →
          env.answer (.useOsAdminAuthToken c.id) = .ok ()) →
        terminated (terminateUnneededClusters env).events =
          (clusters.filter (eligible env)).map Cluster.id ∧
        statusUpdates (terminateUnneededClusters env).events = []) ∧
      (env.conf.useIdentityApiV3 = false →
        (∀ c ∈ clusters, eligible env c = true → c.status ≠ "AwaitingTermination" →
          env.answer (.clusterUpdate c.id "AwaitingTermination") = .ok ()) →
        statusUpdates (terminateUnneededClusters env).events =
          (clusters.filter fun c => eligible env c && c.status != "AwaitingTermination").map
            (fun c => (c.id, "AwaitingTermination")) ∧
        terminated (terminateUnneededClusters env).events = [])) := by
  rw [terminated_terminateUnneededClusters env hget,
    statusUpdates_terminateUnneededClusters env hget]
  refine ⟨fun id hid => ?_, fun u hu => ?_,
    fun hcount => ⟨fun hv htoken => ?_, fun hv hupdate => ?_⟩⟩
  · obtain ⟨ev, hev, hf⟩ := List.mem_filterMap.mp hid
    obtain ⟨c, hc, hevc⟩ := mem_forM_events hev
    rcases terminateUnneededCluster_events env hevc with
      rfl | rfl | ⟨he, ⟨_, rfl | rfl⟩ | ⟨_, _, rfl⟩⟩ <;> cases hf
    exact ⟨c, hc, rfl, he⟩
  · obtain ⟨ev, hev, hf⟩ := List.mem_filterMap.mp hu
    obtain ⟨c, hc, hevc⟩ := mem_forM_events hev
    rcases terminateUnneededCluster_events env hevc with
      rfl | rfl | ⟨he, ⟨_, rfl | rfl⟩ | ⟨_, _, rfl⟩⟩ <;> cases hf
    exact ⟨c, hc, rfl, he⟩
  · obtain ⟨_, ht, hs⟩ := terminateUnneededCluster_loop env clusters hcount
      (fun c hc he _ => htoken c hc he) (fun _ _ _ hv' => absurd (hv.symm.trans hv') (by simp))
    simp [ht, hs, hv]
  · obtain ⟨_, ht, hs⟩ := terminateUnneededCluster_loop env clusters hcount
      (fun _ _ _ hv' => absurd (hv.symm.trans hv') (by simp)) (fun c hc he _ => hupdate c hc he)
    simp [ht, hs, hv]

/-- An environment for the examples: no open job execution on any cluster, every cluster an hour
past its last update, the identity API v3 in use; the trust of cluster `c1` and the job execution
`a` cannot be reached; a terminated cluster is gone, and the refresh changes no job execution. -/
def unreachableTrustAndJob (clusters : List Cluster) (users : List User) : Env where
  conf := { useIdentityApiV3 := true }
  answer := fun
    | .clusterGetAll _ => .ok clusters
    | .jobExecutionCount _ => .ok (0 : Nat)
    | .useOsAdminAuthToken "c1" => .error (.raised "Unauthorized" "trust expired")
    | .jobExecutionGet "a" => .error (.raised "DBError" "lookup failed")
    | .jobExecutionGet _ => .ok none
    | .proxyDomainUsersList => .ok users
    | .utcnow => .ok (0 : Int)
    | .setCtx _ | .updateJobStatuses | .useOsAdminAuthToken _ | .terminateCluster _
      | .clusterUpdate .. | .proxyUserDelete _ => .ok ()
  utcnow _ := 3600000000
  jobStatusesTerminated := ["KILLED"]
  terminatedStatus _ := none
  refreshedJob _ := none

theorem eligible_unreachableTrustAndJob (cs : List Cluster) (us : List User) (id : String) :
    eligible (unreachableTrustAndJob cs us) ⟨id, "etl", "Active", true, 0⟩ = true :=
  (eligible_iff _ _).mpr ⟨rfl, rfl, by norm_num [deltaSeconds, unreachableTrustAndJob]⟩

/-- Of a transient cluster an hour idle and a cluster that is not transient, the task terminates the
first. -/
theorem terminateUnneededClusters_terminates_idle :
    terminated (terminateUnneededClusters (unreachableTrustAndJob
      [⟨"c2", "etl", "Active", true, 0⟩, ⟨"c3", "db", "Active", false, 0⟩] [])).events = ["c2"] := by
  have h := (terminateUnneededClusters_acts_on_eligible (unreachableTrustAndJob
    [⟨"c2", "etl", "Active", true, 0⟩, ⟨"c3", "db", "Active", false, 0⟩] []) _ rfl).2.2
  rw [((h fun _ _ _ => ⟨0, rfl⟩).1 rfl (by
    simp only [List.mem_cons, List.not_mem_nil, or_false]; rintro c (rfl | rfl) _ <;> rfl)).1]
  simp only [List.filter, eligible_unreachableTrustAndJob]
  rfl

/-! ### The body of `check_for_zombie_proxy_users` -/

/-- The answer of `conductor.job_execution_get(ctx, je_id)` for the id in a user's name. -/
def jobExecutionOf (u : User) : Except PyError (Option JobExecution) :=
  env.answer (.jobExecutionGet (sliceFrom u.name 4))

/-- A user `check_for_zombie_proxy_users` deletes: a name starting with `job_`, and a job execution
of the rest of the name that is missing or in a terminal state. -/
def isZombie (u : User) : Bool :=
  startswith u.name "job_" && match jobExecutionOf env u with
    | .ok none => true
    | .ok (some je) => decide (je.info.status ∈ env.jobStatusesTerminated)
    | .error _ => false

/-- A zombie, as the spec has it: named `job_` followed by the id of a job execution that is
missing or has ended. -/
def Zombie (u : User) : Prop :=
  ∃ s, u.name = "job_" ++ s ∧ (env.answer (.jobExecutionGet s) = .ok none ∨
    ∃ je, env.answer (.jobExecutionGet s) = .ok (some je) ∧ je.info.status ∈ env.jobStatusesTerminated)

/-- The users a run deletes, in order. -/
def deleted : List Call → List String :=
  List.filterMap fun | .proxyUserDelete id => some id | _ => none

@[simp] theorem deleted_append (evs evs' : List Call) :
    deleted (evs ++ evs') = deleted evs ++ deleted evs' := List.filterMap_append ..

theorem isZombie_iff (u : User) : isZombie env u = true ↔ Zombie env u := by
  constructor
  · intro h
    simp only [isZombie, Bool.and_eq_true] at h
    obtain ⟨hs, hj⟩ := h
    refine ⟨sliceFrom u.name 4, eq_append_sliceFrom hs, ?_⟩
    unfold jobExecutionOf at hj
    split at hj <;> simp_all
  · rintro ⟨s, hname, hje⟩
    have hs : sliceFrom u.name 4 = s := by rw [hname]; exact sliceFrom_append "job_" s
    have hp : startswith u.name "job_" = true := by rw [hname]; exact startswith_append "job_" s
    have hj : jobExecutionOf env u = env.answer (.jobExecutionGet s) := by
      unfold jobExecutionOf; rw [hs]
    simp only [isZombie, hp, Bool.true_and]
    rcases hje with hje | ⟨je, hje, hst⟩
    · rw [hj.trans hje]
    · rw [hj.trans hje]; simpa using hst

theorem checkForZombieProxyUser_zombie {u : User} (h : isZombie env u = true) :
    checkForZombieProxyUser env u = ⟨[.jobExecutionGet (sliceFrom u.name 4),
      .proxyUserDelete u.id], env.answer (.proxyUserDelete u.id)⟩ := by
  simp only [isZombie, Bool.and_eq_true] at h
  obtain ⟨hs, hj⟩ := h
  simp only [checkForZombieProxyUser, hs, ite_true, ask, invoke_bind]
  unfold jobExecutionOf at hj
  split at hj <;> simp_all

theorem checkForZombieProxyUser_not_zombie {u : User} (h : isZombie env u = false) :
    (∀ ev ∈ (checkForZombieProxyUser env u).events, ev = .jobExecutionGet (sliceFrom u.name 4)) ∧
    (checkForZombieProxyUser env u).result =
      if startswith u.name "job_" then (jobExecutionOf env u).map fun _ => () else .ok () := by
  unfold checkForZombieProxyUser
  cases hs : startswith u.name "job_"
  · simp
  · simp only [isZombie, hs, Bool.true_and] at h
    simp only [ite_true, ask, invoke_bind]
    unfold jobExecutionOf at h ⊢
    split at h <;> simp_all <;> rfl

theorem checkForZombieProxyUser_events {u : User} {ev : Call}
    (h : ev ∈ (checkForZombieProxyUser env u).events) :
    ev = .jobExecutionGet (sliceFrom u.name 4) ∨
      isZombie env u = true ∧ ev = .proxyUserDelete u.id := by
  cases hz : isZombie env u
  · exact .inl ((checkForZombieProxyUser_not_zombie env hz).1 ev h)
  · rw [checkForZombieProxyUser_zombie env hz] at h
    simp only [List.mem_cons, List.mem_singleton, List.not_mem_nil, or_false] at h
    rcases h with h | h <;> simp [h]

/-- The body ends normally exactly when the lookup of a `job_` user, and the deletion of a zombie,
do not raise. -/
theorem checkForZombieProxyUser_result_ok_iff (u : User) :
    (checkForZombieProxyUser env u).result = .ok () ↔
      (startswith u.name "job_" = true → ∃ je, jobExecutionOf env u = .ok je) ∧
      (isZombie env u = true → env.answer (.proxyUserDelete u.id) = .ok ()) := by
  cases hz : isZombie env u
  · rw [(checkForZombieProxyUser_not_zombie env hz).2]
    cases startswith u.name "job_" <;> cases jobExecutionOf env u <;> simp [Except.map]
  · rw [checkForZombieProxyUser_zombie env hz]
    have hs : startswith u.name "job_" = true := by
      simp only [isZombie, Bool.and_eq_true] at hz; exact hz.1
    have hj : ∃ je, jobExecutionOf env u = .ok je := by
      unfold isZombie at hz; split at hz <;> simp_all
    simp only [hs, hj, true_implies, true_and]

/-- The loop of `check_for_zombie_proxy_users`, when the calls it makes do not raise, ends normally
and deletes exactly the zombies, once each, in the order of the list. -/
theorem checkForZombieProxyUser_loop (users : List User)
    (hget : ∀ u ∈ users, startswith u.name "job_" = true → ∃ je, jobExecutionOf env u = .ok je)
    (hdel : ∀ u ∈ users, isZombie env u = true → env.answer (.proxyUserDelete u.id) = .ok ()) :
    (users.forM (checkForZombieProxyUser env)).result = .ok () ∧
    deleted (users.forM (checkForZombieProxyUser env)).events =
      (users.filter (isZombie env)).map User.id := by
  induction users with
  | nil => exact ⟨rfl, rfl⟩
  | cons u us ih =>
    have mem := List.mem_cons_self u us
    have hr := (checkForZombieProxyUser_result_ok_iff env u).mpr ⟨hget u mem, hdel u mem⟩
    obtain ⟨ihr, ihd⟩ := ih (fun v hv => hget v (List.mem_cons_of_mem u hv))
      (fun v hv => hdel v (List.mem_cons_of_mem u hv))
    rw [List.forM_cons', bind_ok hr]
    refine ⟨ihr, ?_⟩
    simp only [deleted_append, ihd, List.filter_cons]
    cases hz : isZombie env u
    · have hnil : deleted (checkForZombieProxyUser env u).events = [] := by
        simp only [deleted, List.filterMap_eq_nil_iff]
        intro ev hev
        rw [(checkForZombieProxyUser_not_zombie env hz).1 ev hev]
      simp [hnil]
    · rw [checkForZombieProxyUser_zombie env hz]
      simp [deleted]

theorem deleted_checkForZombieProxyUsers {users : List User}
    (hlist : env.answer .proxyDomainUsersList = .ok users) :
    deleted (checkForZombieProxyUsers env).events =
      deleted (users.forM (checkForZombieProxyUser env)).events := by
  rw [checkForZombieProxyUsers_framed, deleted, filterMap_framed _ fun _ => rfl,
    ask_bind_of_ok env hlist]
  rfl

/-- `check_for_zombie_proxy_users` deletes zombies only, whatever its calls raise; and when no call
raises, it deletes every zombie of the list, once each, in the order of the list, and no other
user. -/
theorem checkForZombieProxyUsers_deletes_zombies (users : List User)
    (hlist : env.answer .proxyDomainUsersList = .ok users) :
    (∀ id ∈ deleted (checkForZombieProxyUsers env).events,
      ∃ u ∈ users, u.id = id ∧ Zombie env u) ∧
    ((∀ u ∈ users, startswith u.name "job_" = true → ∃ je, jobExecutionOf env u = .ok je) →
      (∀ u ∈ users, isZombie env u = true → env.answer (.proxyUserDelete u.id) = .ok ()) →
      deleted (checkForZombieProxyUsers env).events = (users.filter (isZombie env)).map User.id) := by
  rw [deleted_checkForZombieProxyUsers env hlist]
  refine ⟨fun id hid => ?_, fun hget hdel => (checkForZombieProxyUser_loop env users hget hdel).2⟩
  obtain ⟨ev, hev, hf⟩ := List.mem_filterMap.mp hid
  obtain ⟨u, hu, hevu⟩ := mem_forM_events hev
  rcases checkForZombieProxyUser_events env hevu with rfl | ⟨hz, rfl⟩ <;> cases hf
  exact ⟨u, hu, rfl, (isZombie_iff env u).mp hz⟩

/-- Of a user of a missing job execution and a user not named after one, the task deletes the
first. -/
theorem checkForZombieProxyUsers_deletes_missing :
    deleted (checkForZombieProxyUsers (unreachableTrustAndJob []
      [⟨"2", "job_b"⟩, ⟨"3", "svc"⟩])).events = ["2"] := by
  rw [(checkForZombieProxyUsers_deletes_zombies _ _ rfl).2
    (by simp only [List.mem_cons, List.not_mem_nil, or_false]
        rintro u (rfl | rfl) _ <;> exact ⟨_, rfl⟩)
    (fun _ _ _ => rfl)]
  decide

/-! ### Failures, and the request context -/

theorem terminateUnneededClusters_body_no_setCtx :
    ∀ ev ∈ (ask env (.clusterGetAll "Active") >>= fun cs =>
      cs.forM (terminateUnneededCluster env)).events, ∀ c, ev ≠ .setCtx c := by
  intro ev hev c
  rcases mem_bind_events hev with h | ⟨cs, h⟩
  · simp only [ask, events_invoke, List.mem_singleton] at h
    rw [h]; nofun
  · obtain ⟨cl, -, h⟩ := mem_forM_events h
    rcases terminateUnneededCluster_events env h with
      rfl | rfl | ⟨-, ⟨-, rfl | rfl⟩ | ⟨-, -, rfl⟩⟩ <;> nofun

theorem checkForZombieProxyUsers_body_no_setCtx :
    ∀ ev ∈ (ask env .proxyDomainUsersList >>= fun us =>
      us.forM (checkForZombieProxyUser env)).events, ∀ c, ev ≠ .setCtx c := by
  intro ev hev c
  rcases mem_bind_events hev with h | ⟨us, h⟩
  · simp only [ask, events_invoke, List.mem_singleton] at h
    rw [h]; nofun
  · obtain ⟨u, -, h⟩ := mem_forM_events h
    rcases checkForZombieProxyUser_events env h with rfl | ⟨-, rfl⟩ <;> nofun

/-- Each periodic task leaves the thread with no request context when it returns, and with the
administrator's context it installed when an exception escapes it. -/
theorem periodicTasks_context_after (ctx : Option Context) :
    ctxAfter ctx (updateJobStatuses env).events =
      (match (updateJobStatuses env).result with
        | .ok _ => none
        | .error _ => some getAdminContext) ∧
    ctxAfter ctx (terminateUnneededClusters env).events =
      (match (terminateUnneededClusters env).result with
        | .ok _ => none
        | .error _ => some getAdminContext) ∧
    ctxAfter ctx (checkForZombieProxyUsers env).events =
      (match (checkForZombieProxyUsers env).result with
        | .ok _ => none
        | .error _ => some getAdminContext) := by
  refine ⟨?_, ?_, ?_⟩
  · rw [updateJobStatuses_framed, ctxAfter_framed _ ctx]
    · rfl
    · simp only [ask, events_invoke, List.mem_singleton]
      rintro ev rfl c; nofun
  · rw [terminateUnneededClusters_framed,
      ctxAfter_framed (terminateUnneededClusters_body_no_setCtx env) ctx]
    rfl
  · rw [checkForZombieProxyUsers_framed,
      ctxAfter_framed (checkForZombieProxyUsers_body_no_setCtx env) ctx]
    rfl

/-- When the lookup of a job execution raises, `check_for_zombie_proxy_users` raises and leaves the
administrator's context installed. -/
theorem failed_lookup_leaves_admin_context :
    (checkForZombieProxyUsers (unreachableTrustAndJob [] [⟨"1", "job_a"⟩])).result =
      .error (.raised "DBError" "lookup failed") ∧
    ctxAfter none (checkForZombieProxyUsers (unreachableTrustAndJob [] [⟨"1", "job_a"⟩])).events =
      some getAdminContext := by
  have hres : (checkForZombieProxyUsers (unreachableTrustAndJob [] [⟨"1", "job_a"⟩])).result =
      .error (.raised "DBError" "lookup failed") := by
    decide
  exact ⟨hres, by rw [(periodicTasks_context_after _ none).2.2, hres]⟩

/-- Of the failures of one entity's reconciliation, only a failing `ops.terminate_cluster` is
isolated.  A cluster whose count, trust and status update answer is processed, whatever its
termination does, and the loop goes on to the clusters after it exactly as it would without it; a
cluster on which one of those three raises ends the loop, and no cluster after it is reached.  In
the loop over users nothing is isolated: a user whose lookup or deletion raises ends the loop. -/
theorem reconciliation_isolates_only_terminations (pre post : List Cluster) (c : Cluster)
    (upre upost : List User) (u : User)
    (hpre : (pre.forM (terminateUnneededCluster env)).result = .ok ())
    (hupre : (upre.forM (checkForZombieProxyUser env)).result = .ok ()) :
    (((c.isTransient = true → ∃ n, jobCount env c = .ok n) ∧
        (eligible env c = true → env.conf.useIdentityApiV3 = true →
          env.answer (.useOsAdminAuthToken c.id) = .ok ()) ∧
        (eligible env c = true → env.conf.useIdentityApiV3 = false →
          c.status ≠ "AwaitingTermination" →
          env.answer (.clusterUpdate c.id "AwaitingTermination") = .ok ())) →
      (pre ++ c :: post).forM (terminateUnneededCluster env) =
        ⟨(pre.forM (terminateUnneededCluster env)).events ++ (terminateUnneededCluster env c).events ++
          (post.forM (terminateUnneededCluster env)).events,
          (post.forM (terminateUnneededCluster env)).result⟩ ∧
      (pre ++ post).forM (terminateUnneededCluster env) =
        ⟨(pre.forM (terminateUnneededCluster env)).events ++
          (post.forM (terminateUnneededCluster env)).events,
          (post.forM (terminateUnneededCluster env)).result⟩) ∧
    (¬((c.isTransient = true → ∃ n, jobCount env c = .ok n) ∧
        (eligible env c = true → env.conf.useIdentityApiV3 = true →
          env.answer (.useOsAdminAuthToken c.id) = .ok ()) ∧
        (eligible env c = true → env.conf.useIdentityApiV3 = false →
          c.status ≠ "AwaitingTermination" →
          env.answer (.clusterUpdate c.id "AwaitingTermination") = .ok ())) →
      ∃ e, (pre ++ c :: post).forM (terminateUnneededCluster env) =
        ⟨(pre.forM (terminateUnneededCluster env)).events ++ (terminateUnneededCluster env c).events,
          .error e⟩) ∧
    (((startswith u.name "job_" = true → ∃ je, jobExecutionOf env u = .ok je) ∧
        (isZombie env u = true → env.answer (.proxyUserDelete u.id) = .ok ())) →
      (upre ++ u :: upost).forM (checkForZombieProxyUser env) =
        ⟨(upre.forM (checkForZombieProxyUser env)).events ++ (checkForZombieProxyUser env u).events ++
          (upost.forM (checkForZombieProxyUser env)).events,
          (upost.forM (checkForZombieProxyUser env)).result⟩) ∧
    (¬((startswith u.name "job_" = true → ∃ je, jobExecutionOf env u = .ok je) ∧
        (isZombie env u = true → env.answer (.proxyUserDelete u.id) = .ok ())) →
      ∃ e, (upre ++ u :: upost).forM (checkForZombieProxyUser env) =
        ⟨(upre.forM (checkForZombieProxyUser env)).events ++ (checkForZombieProxyUser env u).events,
          .error e⟩) := by
  rw [← terminateUnneededCluster_result_ok_iff, ← checkForZombieProxyUser_result_ok_iff]
  refine ⟨fun h => forM_insert hpre h, fun h => ?_, fun h => (forM_insert hupre h).1, fun h => ?_⟩
  · cases hc : (terminateUnneededCluster env c).result with
    | ok _ => exact absurd hc h
    | error e => exact ⟨e, forM_stop hpre hc⟩
  · cases hu : (checkForZombieProxyUser env u).result with
    | ok _ => exact absurd hu h
    | error e => exact ⟨e, forM_stop hupre hu⟩

/-- The loop over users stops at a user whose lookup raises. -/
theorem zombie_loop_stops_at_failed_lookup :
    ∃ e, ([⟨"1", "job_a"⟩, ⟨"2", "job_b"⟩] : List User).forM
        (checkForZombieProxyUser (unreachableTrustAndJob [] [])) =
      ⟨[.jobExecutionGet "a"], .error e⟩ := by
  obtain ⟨e, he⟩ := (reconciliation_isolates_only_terminations (unreachableTrustAndJob [] [])
    [] [] ⟨"c", "c", "Active", false, 0⟩ [] [⟨"2", "job_b"⟩] ⟨"1", "job_a"⟩ rfl rfl).2.2.2
    (fun h => by obtain ⟨_, hj⟩ := h.1 rfl; cases hj)
  exact ⟨e, he⟩

/-- A cluster whose trust raises keeps the cluster after it from being terminated, and a user whose
lookup raises keeps the user after it from being deleted, though both are without the failing
one. -/
theorem reconciliation_failure_blocks_later_entities :
    Call.terminateCluster "c2" ∉ (terminateUnneededClusters (unreachableTrustAndJob
      [⟨"c1", "etl", "Active", true, 0⟩, ⟨"c2", "etl", "Active", true, 0⟩] [])).events ∧
    Call.terminateCluster "c2" ∈ (terminateUnneededClusters (unreachableTrustAndJob
      [⟨"c2", "etl", "Active", true, 0⟩] [])).events ∧
    Call.proxyUserDelete "2" ∉ (checkForZombieProxyUsers (unreachableTrustAndJob []
      [⟨"1", "job_a"⟩, ⟨"2", "job_b"⟩])).events ∧
    Call.proxyUserDelete "2" ∈ (checkForZombieProxyUsers (unreachableTrustAndJob []
      [⟨"2", "job_b"⟩])).events := by
  refine ⟨?_, ?_, by decide, by decide⟩
  all_goals
    rw [terminateUnneededClusters_of_active _ rfl, List.forM_cons',
      terminateUnneededCluster_eligible _ (eligible_unreachableTrustAndJob _ _ _)]
    decide

end Sahara.Service

import Sahara.Service.Store

/-! Schedules of the periodic tasks.  `setup()` hands `run_periodic_tasks` to the dynamic timer of a
thread group, which runs the tasks of `SaharaPeriodicTasks` on one thread, one after another, as
their spacings say.  That scheduler belongs to the `periodic_task` library, whose code is not in this
repository, so a schedule here is any sequence of task runs, each in its own world.  On the thread,
every call a task makes to a collaborator is made under the administrator's context, whatever the
runs before left installed, and the context after a schedule is decided by its last run alone.
Against the store, each run reads the store that the runs before it left. -/

namespace Sahara.Service

open Run SaharaPeriodicTasks

/-- The periodic tasks of `SaharaPeriodicTasks`. -/
inductive Task where
  | updateJobStatuses
  | terminateUnneededClusters
  | checkForZombieProxyUsers
  deriving DecidableEq, Repr

/-- One run of a task in the world `env`. -/
def Task.run : Task → Env → Run Call Unit
  | .updateJobStatuses, env => SaharaPeriodicTasks.updateJobStatuses env
  | .terminateUnneededClusters, env => SaharaPeriodicTasks.terminateUnneededClusters env
  | .checkForZombieProxyUsers, env => SaharaPeriodicTasks.checkForZombieProxyUsers env

/-- The calls of a schedule on the thread: the runs of its tasks, each in its world, in order. -/
def trace (sched : List (Task × Env)) : List Call :=
  sched.flatMap fun r => (r.1.run r.2).events

theorem Task.run_framed (t : Task) (env : Env) :
    ∃ x : Run Call Unit, t.run env = framed x ∧ ∀ ev ∈ x.events, ∀ c, ev ≠ .setCtx c := by
  cases t with
  | updateJobStatuses =>
    refine ⟨_, updateJobStatuses_framed env, ?_⟩
    simp only [ask, events_invoke, List.mem_singleton]
    rintro ev rfl c
    nofun
  | terminateUnneededClusters =>
    exact ⟨_, terminateUnneededClusters_framed env, terminateUnneededClusters_body_no_setCtx env⟩
  | checkForZombieProxyUsers =>
    exact ⟨_, checkForZombieProxyUsers_framed env, checkForZombieProxyUsers_body_no_setCtx env⟩

/-- Inside a framed body that installs no context, every call that does not install one is made
under the administrator's context, whatever the thread held before. -/
theorem ctxAfter_framed_prefix {x : Run Call Unit} (hx : ∀ ev ∈ x.events, ∀ c, ev ≠ .setCtx c)
    (ctx : Option Context) {pre post : List Call} {c : Call}
    (h : (framed x).events = pre ++ c :: post) (hc : ∀ ctx', c ≠ .setCtx ctx') :
    ctxAfter ctx pre = some getAdminContext := by
  obtain _ | ⟨ev, pre⟩ := pre
  · exact absurd (List.cons.inj h).1.symm (hc _)
  · simp only [framed, List.cons_append, List.cons.injEq] at h
    obtain ⟨rfl, h⟩ := h
    show ctxAfter (some getAdminContext) pre = _
    rcases List.append_eq_append_iff.mp h.symm with ⟨a, hxe, -⟩ | ⟨c', -, htail⟩
    · exact ctxAfter_of_no_setCtx fun ev hev => hx ev (hxe ▸ List.mem_append_left a hev)
    · have hmem := List.mem_append_right c' (List.mem_cons_self c post)
      rw [← htail] at hmem
      split at hmem
      · exact absurd (List.mem_singleton.mp hmem) (hc none)
      · cases hmem

theorem ctxAfter_run (t : Task) (env : Env) (ctx : Option Context) :
    ctxAfter ctx (t.run env).events = match (t.run env).result with
      | .ok _ => none
      | .error _ => some getAdminContext := by
  obtain ⟨x, hrun, hx⟩ := t.run_framed env
  rw [hrun, ctxAfter_framed hx]
  rfl

/-- Over any schedule of the periodic tasks, in any worlds, every call a task makes to a
collaborator is made while the administrator's context is installed on the thread, whatever context
it held before the schedule; and the context after a schedule is none when its last run returned,
and the administrator's when an exception escaped it. -/
theorem schedule_calls_under_admin_context (ctx : Option Context) (sched : List (Task × Env)) :
    (∀ pre c post, trace sched = pre ++ c :: post → (∀ ctx', c ≠ .setCtx ctx') →
      ctxAfter ctx pre = some getAdminContext) ∧
    ∀ t env, ctxAfter ctx (trace (sched ++ [(t, env)])) = match (t.run env).result with
      | .ok _ => none
      | .error _ => some getAdminContext := by
  refine ⟨?_, fun t env => ?_⟩
  · induction sched generalizing ctx with
    | nil => intro pre c post h; simp [trace] at h
    | cons r sched ih =>
      intro pre c post h hc
      obtain ⟨x, hrun, hx⟩ := r.1.run_framed r.2
      rw [trace, List.flatMap_cons] at h
      rcases List.append_eq_append_iff.mp h.symm with ⟨_ | ⟨d, a⟩, hpre, hpost⟩ | ⟨c', rfl, hrest⟩
      · rw [List.append_nil] at hpre
        rw [← hpre]
        exact ih (ctxAfter ctx (r.1.run r.2).events) [] c post
          (by simpa only [trace, List.nil_append] using hpost.symm) hc
      · obtain ⟨rfl, -⟩ := List.cons.inj hpost
        exact ctxAfter_framed_prefix hx ctx (hrun ▸ hpre) hc
      · rw [ctxAfter_append]
        exact ih _ c' c post hrest hc
  · rw [trace, List.flatMap_append, List.flatMap_singleton, ctxAfter_append, ctxAfter_run]

/-- A world in which no call raises and every list is empty, without the identity API v3, an hour
after every update; a terminated cluster is gone, and the refresh changes no job execution. -/
def calmWorld : Env where
  conf := { useIdentityApiV3 := false }
  answer := fun
    | .clusterGetAll _ => .ok []
    | .jobExecutionCount _ => .ok (0 : Nat)
    | .jobExecutionGet _ => .ok none
    | .proxyDomainUsersList => .ok []
    | .utcnow => .ok (0 : Int)
    | .setCtx _ | .updateJobStatuses | .useOsAdminAuthToken _ | .terminateCluster _
      | .clusterUpdate .. | .proxyUserDelete _ => .ok ()
  utcnow _ := 3600000000
  jobStatusesTerminated := ["DONEWITHERROR", "FAILED", "KILLED", "SUCCEEDED"]
  terminatedStatus _ := none
  refreshedJob _ := none

/-- After a sweep, `terminate_unneeded_clusters` lists the active clusters under the
administrator's context, which the sweep cleared and the task installed again. -/
theorem cluster_listing_under_admin_context :
    ctxAfter none (trace [(.checkForZombieProxyUsers, calmWorld)] ++
      [.setCtx (some getAdminContext)]) = some getAdminContext :=
  (schedule_calls_under_admin_context none
    [(.checkForZombieProxyUsers, calmWorld), (.terminateUnneededClusters, calmWorld)]).1 _
    (.clusterGetAll "Active") [.setCtx none] (by decide) fun _ => nofun

/-! ### Schedules against the store -/

/-- The runs of a schedule against the store: each task runs in its world against the store that
the runs before it left.  The world and the calls of each run, in order, and the final store. -/
def Store.runAll : Store → List (Task × Env) → List (Env × List Call) × Store
  | s, [] => ([], s)
  | s, (t, env) :: sched =>
    let evs := (t.run (s.over env)).events
    let rest := (s.commit env evs).runAll sched
    ((env, evs) :: rest.1, rest.2)

/-- The clusters the runs marked as awaiting termination, by calls that did not raise, in order. -/
def marked (runs : List (Env × List Call)) : List String :=
  runs.flatMap fun r => (statusUpdates (r.1.answered r.2)).map Prod.fst

/-- The proxy users the runs deleted, by calls that did not raise, in order. -/
def removed (runs : List (Env × List Call)) : List String :=
  runs.flatMap fun r => deleted (r.1.answered r.2)

end Sahara.Service

import Sahara.Cdh.Scaling

/-! Sequences of calls of the plugin's methods that write the hosts, the membership and the roles of
the manager: `configure_instances`, `decommission_nodes` and `delete_instances`, in any order, with
any arguments, each against its own endpoint and against the manager the calls before it left.
Whatever the calls raise, no host is deleted twice: `delete_instances` lists the inventory again
each time and deletes a listed host at most once, and a deleted host leaves the inventory.  The
inventory only shrinks, since no method adds a host. -/

namespace Sahara.Cdh

open Run ClouderaUtils

/-- A call of one of the plugin's methods that write the hosts, the membership or the roles of the
manager, with its arguments.  `create_mgmt_service` writes the management service and its roles,
which `Manager` does not hold. -/
inductive Op where
  | configureInstances (instances : List Instance) (cluster : Option Cluster)
  | decommissionNodes (cluster : Cluster) (process : String) (roleNames : List String)
  | deleteInstances (cluster : Cluster) (instances : List Instance)

/-- The run of the call against the endpoint `ep`. -/
def Op.run (self : ClouderaUtils) : Op → Endpoint → Run Event Unit
  | .configureInstances instances cluster, ep => self.configureInstances ep instances cluster
  | .decommissionNodes cluster process roleNames, ep =>
    self.decommissionNodes ep cluster process roleNames
  | .deleteInstances cluster instances, ep => self.deleteInstances ep cluster instances

/-- The runs of a sequence of calls against the manager: each runs against its endpoint and against
the manager that the runs before it left.  The endpoint and the events of each run, in order, and
the final manager. -/
def Manager.runAll (self : ClouderaUtils) :
    Manager → List (Op × Endpoint) → List (Endpoint × List Event) × Manager
  | m, [] => ([], m)
  | m, (op, ep) :: ops =>
    let evs := (op.run self (m.over ep)).events
    let rest := (m.commit ep evs).runAll self ops
    ((ep, evs) :: rest.1, rest.2)

/-- Every call of the sequence returns, each against the manager the calls before it left. -/
def Manager.runsReturn (self : ClouderaUtils) : Manager → List (Op × Endpoint) → Prop
  | _, [] => True
  | m, (op, ep) :: ops =>
    (op.run self (m.over ep)).result = .ok () ∧
      (m.commit ep (op.run self (m.over ep)).events).runsReturn self ops

/-- The hosts the runs deleted, by calls that did not raise, in order. -/
def hostsDeleted (runs : List (Endpoint × List Event)) : List String :=
  runs.flatMap fun r => deletedHosts (answered r.1 r.2)

namespace Manager

variable (m : Manager) (self : ClouderaUtils) {ep : Endpoint}

theorem runAll_append (ops ops' : List (Op × Endpoint)) :
    (m.runAll self (ops ++ ops')).2 = ((m.runAll self ops).2.runAll self ops').2 := by
  induction ops generalizing m with
  | nil => rfl
  | cons r ops ih => exact ih _

theorem runsReturn_of_forall {ops : List (Op × Endpoint)}
    (h : ∀ r ∈ ops, ∀ n : Manager, (r.1.run self (n.over r.2)).result = .ok ()) :
    m.runsReturn self ops := by
  induction ops generalizing m with
  | nil => trivial
  | cons r ops ih =>
    obtain ⟨op, ep⟩ := r
    exact ⟨h _ (List.mem_cons_self _ _) m,
      ih _ fun r' hr' => h r' (List.mem_cons_of_mem _ hr')⟩

theorem deletedHosts_answered_of_not_mem {evs : List Event}
    (h : ∀ api hostId, Event.call (.deleteHost api hostId) ∉ evs) :
    deletedHosts (answered ep evs) = [] :=
  List.filterMap_eq_nil_iff.mpr fun c hc => by
    obtain ⟨ev, hev, hc⟩ := List.mem_filterMap.mp hc
    cases ev with
    | yield _ => cases hc
    | call c' =>
      simp only [Option.ite_none_right_eq_some, Option.some.injEq] at hc
      obtain ⟨-, rfl⟩ := hc
      cases c' with
      | deleteHost api hostId => exact absurd hev (h api hostId)
      | _ => rfl

theorem deletedHosts_configureInstances (ep' : Endpoint) (instances : List Instance)
    (cluster : Option Cluster) :
    deletedHosts (answered ep (self.configureInstances ep' instances cluster).events) = [] := by
  refine deletedHosts_answered_of_not_mem fun api hostId hm => ?_
  obtain ⟨inst, -, hm⟩ := mem_forM_events hm
  obtain ⟨process, -, hm⟩ := mem_forM_events hm
  unfold addRole at hm
  split at hm
  · cases hm
  rcases mem_bind_events hm with hm | ⟨service, hm⟩
  · rcases getServiceByRole_events ep' self hm with ⟨_, _, h⟩ | ⟨_, _, h⟩ <;> cases h
  rcases mem_bind_events hm with hm | ⟨role, hm⟩ <;> cases List.mem_singleton.mp hm

theorem deletedHosts_decommissionNodes (ep' : Endpoint) (cluster : Cluster) (process : String)
    (roleNames : List String) :
    deletedHosts (answered ep (self.decommissionNodes ep' cluster process roleNames).events) = [] := by
  refine deletedHosts_answered_of_not_mem fun api hostId hm => ?_
  rcases mem_bind_events hm with hm | ⟨service, hm⟩
  · rcases getServiceByRole_events ep' self hm with ⟨_, _, h⟩ | ⟨_, _, h⟩ <;> cases h
  rcases mem_bind_events hm with hm | ⟨cmd, hm⟩
  · cases List.mem_singleton.mp hm
  rcases mem_bind_events hm with hm | ⟨_, hm⟩
  · cases List.mem_singleton.mp hm
  obtain ⟨_, -, hm⟩ := mem_forM_events hm
  cases List.mem_singleton.mp hm

theorem deletedHosts_deleteInstances_sublist (cluster : Cluster) (instances : List Instance) :
    (deletedHosts (answered ep (self.deleteInstances (m.over ep) cluster instances).events)).Sublist
      (m.hosts.map ApiHost.hostId) := by
  refine ((answered_sublist_calls ep _).filterMap _).trans ?_
  simp only [deleteInstances]
  cases hcl : (self.getClouderaCluster (m.over ep) cluster).result with
  | error e => rw [bind_error hcl]; exact List.nil_sublist _
  | ok cm =>
    rw [bind_ok hcl]
    cases hh : (ask (m.over ep) (.getAllHosts (self.getApiClient cluster) "full")).result with
    | error e => rw [bind_error hh]; exact List.nil_sublist _
    | ok hosts =>
      obtain ⟨rfl, -⟩ := over_read_ok hh rfl
      rw [bind_ok hh, calls, List.filterMap_filterMap, List.map_eq_flatMap ApiHost.hostId m.hosts]
      simp only [getClouderaCluster, ask, events_invoke, List.singleton_append, List.filterMap_cons,
        Option.some_bind, List.cons_append, List.nil_append]
      refine filterMap_forM_sublist _ _ fun h _ => ?_
      unfold deleteInstanceHost
      split
      · simp only [ask, invoke_bind]
        split <;> simp
      · exact List.nil_sublist _

/-- Any call against the manager deletes only hosts of the inventory, each at most once, in the
order of the inventory. -/
theorem deletedHosts_run_sublist (op : Op) (ep : Endpoint) :
    (deletedHosts (answered ep (op.run self (m.over ep)).events)).Sublist
      (m.hosts.map ApiHost.hostId) := by
  cases op with
  | configureInstances instances cluster =>
    rw [Op.run, deletedHosts_configureInstances]
    exact List.nil_sublist _
  | decommissionNodes cluster process roleNames =>
    rw [Op.run, deletedHosts_decommissionNodes]
    exact List.nil_sublist _
  | deleteInstances cluster instances => exact m.deletedHosts_deleteInstances_sublist self _ _

/-- The invariant of the deletions over a sequence of calls: the hosts deleted so far are distinct
and were in the first inventory, none of them is in the inventory any more, and the inventory is
part of the first one, in order. -/
structure DeletedOnce (inventory : List ApiHost) (dels : List String) (m : Manager) : Prop where
  dels_nodup : dels.Nodup
  inventoried : ∀ id ∈ dels, id ∈ inventory.map ApiHost.hostId
  gone : ∀ h ∈ m.hosts, h.hostId ∉ dels
  shrinks : m.hosts.Sublist inventory

/-- One call keeps the invariant: it deletes hosts of the inventory only, which no earlier call
deleted, and each of them leaves the inventory. -/
theorem DeletedOnce.step {inventory : List ApiHost} {dels : List String} {m : Manager}
    (h : DeletedOnce inventory dels m) (op : Op) (ep : Endpoint) :
    DeletedOnce inventory (dels ++ deletedHosts (answered ep (op.run self (m.over ep)).events))
      (m.commit ep (op.run self (m.over ep)).events) := by
  have hsub := m.deletedHosts_run_sublist self op ep
  have hinv : ∀ id ∈ deletedHosts (answered ep (op.run self (m.over ep)).events),
      ∃ host ∈ m.hosts, host.hostId = id := fun id hid => List.mem_map.mp (hsub.subset hid)
  constructor
  · refine List.nodup_append.mpr ⟨h.dels_nodup, m.hosts_nodup.sublist hsub, fun id hd hn => ?_⟩
    obtain ⟨host, hm, rfl⟩ := hinv id hn
    exact h.gone host hm hd
  · intro id hid
    rcases List.mem_append.mp hid with hd | hn
    · exact h.inventoried id hd
    · obtain ⟨host, hm, rfl⟩ := hinv id hn
      exact List.mem_map_of_mem _ (h.shrinks.subset hm)
  · rw [hosts_commit]
    intro host hm hid
    obtain ⟨hm, hnew⟩ := List.mem_filter.mp hm
    rcases List.mem_append.mp hid with hd | hn
    · exact h.gone host hm hd
    · exact of_decide_eq_true hnew hn
  · rw [hosts_commit]
    exact (List.filter_sublist _).trans h.shrinks

theorem DeletedOnce.runAll {inventory : List ApiHost} {dels : List String} {m : Manager}
    (h : DeletedOnce inventory dels m) (ops : List (Op × Endpoint)) :
    DeletedOnce inventory (dels ++ hostsDeleted (m.runAll self ops).1) (m.runAll self ops).2 := by
  induction ops generalizing dels m with
  | nil => simpa [Manager.runAll, hostsDeleted] using h
  | cons r ops ih =>
    simpa only [Manager.runAll, hostsDeleted, List.flatMap_cons, List.append_assoc] using
      ih (h.step self r.1 r.2)

/-- Over any sequence of calls of `configure_instances`, `decommission_nodes` and `delete_instances`
against the manager, in any endpoints and whatever their calls raise, no host is deleted twice: the
`delete_host` calls that did not raise name distinct hosts of the first inventory, none of which is
in the inventory at the end; and the inventory only shrinks, keeping its order. -/
theorem runAll_deletes_each_host_once (ops : List (Op × Endpoint)) :
    (hostsDeleted (m.runAll self ops).1).Nodup ∧
    (∀ id ∈ hostsDeleted (m.runAll self ops).1, id ∈ m.hosts.map ApiHost.hostId) ∧
    (∀ h ∈ (m.runAll self ops).2.hosts, h.hostId ∉ hostsDeleted (m.runAll self ops).1) ∧
    (m.runAll self ops).2.hosts.Sublist m.hosts := by
  have h := (DeletedOnce.mk List.nodup_nil (fun _ h => absurd h (List.not_mem_nil _))
    (fun _ _ => List.not_mem_nil _) (List.Sublist.refl _) : DeletedOnce m.hosts [] m).runAll self ops
  simp only [List.nil_append] at h
  exact ⟨h.dels_nodup, h.inventoried, h.gone, h.shrinks⟩

end Manager

end Sahara.Cdh

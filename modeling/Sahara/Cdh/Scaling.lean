import Sahara.Cdh.Manager

/-! What the plugin's methods do to the manager.  Run against it and committed, `delete_instances`
that returns takes the hosts of the instances out of the cluster and out of the inventory, and
leaves the roles; `configure_instances` that returns adds the roles `_add_role` plans, instance after
instance and process after process, each configured as `_get_configs` says; and
`decommission_nodes` that returns deletes the roles it was given from the process's service,
whatever the decommission command did.  The runs refine `Manager.dropHosts`, `Manager.addRoles`
and `Manager.deleteRoles`. -/

namespace Sahara.Cdh

namespace Manager

open Run ClouderaUtils

variable {ep : Endpoint} (m : Manager) (self : ClouderaUtils)

/-! ### `get_service_by_role` -/

theorem commit_getServiceByRole (ep' : Endpoint) (n : Manager) (process : String)
    (cluster : Option Cluster) (inst : Option Instance) :
    n.commit ep (self.getServiceByRole ep' process cluster inst).events = n :=
  n.commit_of_reads fun _ hc _ => by
    rcases getServiceByRole_events ep' self hc with ⟨_, _, h⟩ | ⟨_, _, h⟩ <;> cases h <;> rfl

theorem getServiceByRole_over {process : String} {cluster : Option Cluster}
    {inst : Option Instance} {service : ApiService}
    (h : (self.getServiceByRole (m.over ep) process cluster inst).result = .ok service) :
    ∃ c svc, (cluster <|> inst.map fun i => i.nodeGroup.cluster) = some c ∧
      serviceNameOf process = some svc ∧ service = ⟨c.name, svc⟩ := by
  rcases cluster with _ | c <;> rcases inst with _ | i <;> simp only [getServiceByRole] at h
  · obtain ⟨_, h, -⟩ := bind_result_ok h
    cases h
  all_goals
    obtain ⟨cm, hcm, h, -⟩ := bind_result_ok h
    obtain ⟨rfl, -⟩ := over_read_ok hcm rfl
    cases hs : serviceNameOf process with
    | none => rw [hs] at h; cases h
    | some svc => rw [hs] at h; exact ⟨_, svc, rfl, rfl, (over_read_ok h rfl).1⟩

/-! ### `configure_instances` -/

theorem commit_addRole (n : Manager) {inst : Instance} {process : String}
    {cluster : Option Cluster} (hok : (self.addRole (m.over ep) inst process cluster).result = .ok ())
    (hfresh : ((n.roles ++ (self.plannedRole inst cluster process).toList).map RoleRow.name).Nodup) :
    n.commit ep (self.addRole (m.over ep) inst process cluster).events =
      n.addRoles (self.plannedRole inst cluster process).toList := by
  by_cases hp : process ∈ ["CLOUDERA_MANAGER"]
  · obtain rfl := List.mem_singleton.mp hp
    simp [addRole, plannedRole]
  simp only [addRole, hp, ite_false] at hok ⊢
  obtain ⟨service, hs, hok, hev⟩ := bind_result_ok hok
  obtain ⟨c, svc, hc, hsvc, rfl⟩ := m.getServiceByRole_over self hs
  cases hc
  obtain ⟨role, hrole, hok, hev'⟩ := bind_result_ok hok
  obtain ⟨rfl, hcreate⟩ := over_read_ok hrole rfl
  have hplan : self.plannedRole inst cluster process = some
      ⟨⟨inst.nodeGroup.cluster.name, svc⟩, self.getRoleName inst (self.convertRoleShowname process),
        self.convertRoleShowname process, inst.fqdn,
        self.getConfigs (self.convertRoleShowname process) cluster inst.nodeGroup⟩ := by
    simp only [plannedRole, hp, ite_false, hsvc, Option.map_some']
  rw [hplan] at hfresh ⊢
  rw [hev, commit_append, commit_getServiceByRole, hev', commit_append, ask, ask, events_invoke,
    events_invoke, commit_call _ hcreate, commit_call _ (over_not_read_ok hok rfl)]
  rw [List.map_append, List.nodup_append] at hfresh
  exact updateConfig_createRole _ _ fun h => hfresh.2.2 h (List.mem_singleton_self _)

/-- A loop whose iterations return, each adding its roles to any manager they are new to, adds them
all, in order, when they are new and distinct. -/
theorem commit_forM_addRoles {α : Type} {xs : List α} {f : α → Run Event Unit}
    {rows : α → List RoleRow} (hok : (xs.forM f).result = .ok ())
    (hstep : ∀ x ∈ xs, ∀ n : Manager, ((n.roles ++ rows x).map RoleRow.name).Nodup →
      n.commit ep (f x).events = n.addRoles (rows x))
    (n : Manager) (hfresh : ((n.roles ++ xs.flatMap rows).map RoleRow.name).Nodup) :
    n.commit ep (xs.forM f).events = n.addRoles (xs.flatMap rows) := by
  rw [(forM_ok (forM_result_ok_iff.mp hok)).2]
  clear hok
  induction xs generalizing n with
  | nil => simp
  | cons x xs ih =>
    have hx : ((n.roles ++ rows x).map RoleRow.name).Nodup :=
      hfresh.sublist (((List.sublist_append_left _ _).append_left _).map _)
    rw [List.flatMap_cons, List.flatMap_cons, commit_append, hstep x (List.mem_cons_self x xs) n hx,
      ih (fun y hy => hstep y (List.mem_cons_of_mem x hy)) _
        (by simpa only [addRoles, List.append_assoc] using hfresh), addRoles_addRoles]

theorem commit_configureInstance (n : Manager) {inst : Instance} {cluster : Option Cluster}
    (hok : (self.configureInstance (m.over ep) inst cluster).result = .ok ())
    (hfresh : ((n.roles ++ inst.nodeGroup.nodeProcesses.filterMap (self.plannedRole inst cluster)).map
      RoleRow.name).Nodup) :
    n.commit ep (self.configureInstance (m.over ep) inst cluster).events =
      n.addRoles (inst.nodeGroup.nodeProcesses.filterMap (self.plannedRole inst cluster)) := by
  rw [List.filterMap_eq_flatMap_toList] at hfresh ⊢
  exact commit_forM_addRoles hok
    (fun p hp n' h' => m.commit_addRole self n' (forM_result_ok_iff.mp hok p hp) h') n hfresh

theorem commit_configureInstances (n : Manager) {instances : List Instance}
    {cluster : Option Cluster}
    (hok : (self.configureInstances (m.over ep) instances cluster).result = .ok ())
    (hfresh : ((n.roles ++ self.plannedRoles instances cluster).map RoleRow.name).Nodup) :
    n.commit ep (self.configureInstances (m.over ep) instances cluster).events =
      n.addRoles (self.plannedRoles instances cluster) :=
  commit_forM_addRoles hok (fun inst hi n' h =>
    m.commit_configureInstance self n' (forM_result_ok_iff.mp hok inst hi) h) n hfresh

/-- `configure_instances` that returns, committed to the manager, adds the roles `_add_role` plans,
instance after instance and process after process, each on its instance's host and configured as
`_get_configs` says, when their names are new to the manager and distinct: the method refines
`Manager.addRoles`. -/
theorem configureInstances_commit {instances : List Instance} {cluster : Option Cluster}
    (hok : (self.configureInstances (m.over ep) instances cluster).result = .ok ())
    (hfresh : ((m.roles ++ self.plannedRoles instances cluster).map RoleRow.name).Nodup) :
    m.commit ep (self.configureInstances (m.over ep) instances cluster).events =
      m.addRoles (self.plannedRoles instances cluster) :=
  m.commit_configureInstances self m hok hfresh

end Manager

/-- A manager for the examples: the cluster `cluster` of the two workers and the manager's host,
with a data node on each worker. -/
def exampleManager : Manager where
  hosts := [⟨"h1", "worker-1"⟩, ⟨"h2", "worker-2"⟩, ⟨"h3", "manager"⟩]
  clusterHosts := [("cluster", "h1"), ("cluster", "h2"), ("cluster", "h3")]
  roles := [⟨⟨"cluster", "hdfs01"⟩, "DATANODE_worker-1", "DATANODE", "worker-1", []⟩,
    ⟨⟨"cluster", "hdfs01"⟩, "DATANODE_worker-2", "DATANODE", "worker-2", []⟩]
  hosts_nodup := by decide

/-- An endpoint on which every call of `configure_instances`, `decommission_nodes` and
`delete_instances` succeeds. -/
def scalingEndpoint : Endpoint := fun
  | .getCluster _ name => .ok ⟨name⟩
  | .getService cluster name => .ok ⟨cluster.name, name⟩
  | .getAllHosts .. => .ok []
  | .createRole _ name .. => .ok ⟨name⟩
  | .decommission .. => .ok ⟨9⟩
  | .wait _ => .ok ⟨true, "Decommissioned", none⟩
  | .removeHost .. | .deleteHost .. | .updateConfig .. | .deleteRole .. => .ok ()
  | _ => .error (.raised "ApiException" "unexpected call")

/-- A third worker, running a data node and a node manager. -/
def worker3 : Instance := ⟨"worker-3", "10.0.0.5", ⟨["DATANODE", "NODEMANAGER"], exampleCluster⟩⟩

/-- There, configuring the third worker adds its data node to `hdfs01` and its node manager to
`yarn01`, after the roles already there. -/
theorem configuring_worker_adds_its_roles :
    (keepShownames.configureInstances (exampleManager.over scalingEndpoint) [worker3] none).result =
      .ok () ∧
    (exampleManager.commit scalingEndpoint
      (keepShownames.configureInstances (exampleManager.over scalingEndpoint) [worker3] none).events).roles =
      exampleManager.roles ++
        [⟨⟨"cluster", "hdfs01"⟩, "DATANODE_worker-3", "DATANODE", "worker-3", []⟩,
          ⟨⟨"cluster", "yarn01"⟩, "NODEMANAGER_worker-3", "NODEMANAGER", "worker-3", []⟩] := by
  have hok : (keepShownames.configureInstances (exampleManager.over scalingEndpoint) [worker3]
      none).result = .ok () := by decide
  refine ⟨hok, ?_⟩
  rw [Manager.configureInstances_commit _ _ hok (by decide)]
  rfl

namespace Manager

open Run ClouderaUtils

variable {ep : Endpoint} (m : Manager) (self : ClouderaUtils)

/-! ### `decommission_nodes` -/

theorem commit_deleteRole_loop (n : Manager) (service : ApiService) {names : List String}
    (hok : ∀ name ∈ names, (ep (.deleteRole service name)).isOk) :
    n.commit ep (names.flatMap fun name => [.call (.deleteRole service name)]) =
      n.deleteRoles service names := by
  induction names generalizing n with
  | nil => simp
  | cons name names ih =>
    rw [List.flatMap_cons, commit_append, commit_call _ (hok name (List.mem_cons_self _ _)),
      ih _ fun k hk => hok k (List.mem_cons_of_mem _ hk)]
    exact deleteRoles_deleteRole _ _ _ _

/-- The run of `decommission_nodes` that returned against the manager, committed to any manager,
deletes the roles it was given from the process's service in the cluster: the run reads nothing of
the manager. -/
theorem commit_decommissionNodes (n : Manager) {cluster : Cluster} {process : String}
    {roleNames : List String}
    (hok : (self.decommissionNodes (m.over ep) cluster process roleNames).result = .ok ()) :
    ∃ svc, serviceNameOf process = some svc ∧
      n.commit ep (self.decommissionNodes (m.over ep) cluster process roleNames).events =
        n.deleteRoles ⟨cluster.name, svc⟩ roleNames := by
  unfold decommissionNodes at hok ⊢
  obtain ⟨service, hs, hok, hev⟩ := bind_result_ok hok
  obtain ⟨c, svc, hc, hsvc, rfl⟩ := m.getServiceByRole_over self hs
  cases hc
  obtain ⟨cmd, -, hok, hcmd⟩ := bind_result_ok hok
  obtain ⟨_, -, hok, hwait⟩ := bind_result_ok hok
  dsimp only at hok hwait
  have hdel := forM_result_ok_iff.mp hok
  refine ⟨svc, hsvc, ?_⟩
  rw [hev, commit_append, commit_getServiceByRole, hcmd, commit_append,
    n.commit_of_reads fun c hc _ => by cases List.mem_singleton.mp hc; rfl, hwait, commit_append,
    n.commit_of_reads fun c hc _ => by cases List.mem_singleton.mp hc; rfl, (forM_ok hdel).2]
  exact n.commit_deleteRole_loop _ fun name hn => over_not_read_ok (hdel name hn) rfl

/-- `decommission_nodes` that returns, committed to the manager, deletes the roles it was given from
the process's service in the cluster, and changes nothing else, whatever the decommission command
did: the method refines `Manager.deleteRoles`. -/
theorem decommissionNodes_commit {cluster : Cluster} {process : String} {roleNames : List String}
    (hok : (self.decommissionNodes (m.over ep) cluster process roleNames).result = .ok ()) :
    ∃ svc, serviceNameOf process = some svc ∧
      m.commit ep (self.decommissionNodes (m.over ep) cluster process roleNames).events =
        m.deleteRoles ⟨cluster.name, svc⟩ roleNames :=
  m.commit_decommissionNodes self m hok

/-- There, decommissioning the second worker's data node deletes its role from `hdfs01` and leaves
the first worker's. -/
theorem decommissioning_deletes_data_node :
    (keepShownames.decommissionNodes (exampleManager.over scalingEndpoint) exampleCluster "DATANODE"
      ["DATANODE_worker-2"]).result = .ok () ∧
    (exampleManager.commit scalingEndpoint (keepShownames.decommissionNodes
      (exampleManager.over scalingEndpoint) exampleCluster "DATANODE" ["DATANODE_worker-2"]).events).roles =
      [⟨⟨"cluster", "hdfs01"⟩, "DATANODE_worker-1", "DATANODE", "worker-1", []⟩] := by
  have hok : (keepShownames.decommissionNodes (exampleManager.over scalingEndpoint) exampleCluster
      "DATANODE" ["DATANODE_worker-2"]).result = .ok () := by decide
  refine ⟨hok, ?_⟩
  obtain ⟨svc, hsvc, h⟩ := decommissionNodes_commit exampleManager keepShownames hok
  obtain rfl : svc = "hdfs01" :=
    Option.some.inj (hsvc.symm.trans (by decide : serviceNameOf "DATANODE" = some "hdfs01"))
  rw [h]
  decide

/-! ### `delete_instances` -/

theorem deleteInstances_over {cluster : Cluster} {instances : List Instance}
    (hok : (self.deleteInstances (m.over ep) cluster instances).result = .ok ()) :
    answered ep (self.deleteInstances (m.over ep) cluster instances).events =
      [.getCluster (self.getApiClient cluster) cluster.name,
        .getAllHosts (self.getApiClient cluster) "full"] ++
      (m.hosts.filter fun h => h.hostname ∈ instances.map Instance.fqdn).flatMap fun h =>
        [.removeHost ⟨cluster.name⟩ h.hostId, .deleteHost (self.getApiClient cluster) h.hostId] := by
  have hrun := hok
  simp only [deleteInstances, getClouderaCluster] at hok
  obtain ⟨cm, hcm, hok, -⟩ := bind_result_ok hok
  obtain ⟨rfl, hclok⟩ := over_read_ok hcm rfl
  obtain ⟨hosts, hh, hok, -⟩ := bind_result_ok hok
  obtain ⟨rfl, hhok⟩ := over_read_ok hh rfl
  have hlisted := fun h hm =>
    (deleteInstanceHost_result_ok_iff (m.over ep)).mp (forM_result_ok_iff.mp hok h hm)
  rw [deleteInstances_eq (m.over ep) self cluster instances hcm hh,
    deleteInstanceHost_loop (m.over ep) m.hosts hlisted, answered_append,
    show [Event.call (.getCluster (self.getApiClient cluster) cluster.name),
      .call (.getAllHosts (self.getApiClient cluster) "full")] = List.map Event.call [_, _] from rfl,
    answered_map_call (by simp [hclok, hhok]), answered_flatMap]
  refine congrArg _ (List.flatMap_congr fun h hm => ?_)
  show answered ep ([_, _].map Event.call) = _
  refine answered_map_call ?_
  obtain ⟨hm, hn⟩ := List.mem_filter.mp hm
  obtain ⟨hr, hd⟩ := hlisted h hm (of_decide_eq_true hn)
  simp [over_not_read_ok hr rfl, over_not_read_ok hd rfl]

theorem commit_of_deleteCalls {evs : List Event} {api : ApiResource} {clusterName : String}
    {names : List String}
    (hans : answered ep evs = [.getCluster api clusterName, .getAllHosts api "full"] ++
      (m.hosts.filter fun h => h.hostname ∈ names).flatMap fun h =>
        [.removeHost ⟨clusterName⟩ h.hostId, .deleteHost api h.hostId]) :
    m.commit ep evs = m.dropHosts clusterName names := by
  ext1
  · rw [hosts_commit, hans]
    refine List.filter_congr fun h hm => ?_
    simp only [deletedHosts, List.filterMap_append, List.filterMap_cons, List.filterMap_nil,
      List.filterMap_flatMap, List.nil_append, ← List.map_eq_flatMap,
      mem_map_filter_iff m.hosts_nodup hm, decide_eq_true_eq]
  · rw [clusterHosts_commit, hans]
    refine List.filter_congr fun p _ => decide_eq_decide.mpr (not_congr ?_)
    simp only [removedHosts, List.filterMap_append, List.filterMap_cons, List.filterMap_nil,
      List.filterMap_flatMap, List.nil_append, ← List.map_eq_flatMap, hostIdsNamed, List.mem_map]
    constructor
    · rintro ⟨h, hm, rfl⟩
      exact ⟨rfl, h, hm, rfl⟩
    · rintro ⟨h1, h, hm, h2⟩
      exact ⟨h, hm, Prod.ext h1.symm h2⟩
  · exact roles_commit _ fun c hc => by
      rw [hans] at hc
      simp only [List.mem_append, List.mem_cons, List.mem_flatMap, List.not_mem_nil] at hc
      rcases hc with (rfl | rfl | hc) | ⟨_, -, rfl | rfl | hc⟩ <;> first | rfl | cases hc

/-- `delete_instances` that returns, committed to the manager, takes the hosts named like the
instances out of the cluster and out of the inventory, and leaves the roles: the method refines
`Manager.dropHosts`. -/
theorem deleteInstances_commit {cluster : Cluster} {instances : List Instance}
    (hok : (self.deleteInstances (m.over ep) cluster instances).result = .ok ()) :
    m.commit ep (self.deleteInstances (m.over ep) cluster instances).events =
      m.dropHosts cluster.name (instances.map Instance.fqdn) :=
  m.commit_of_deleteCalls (m.deleteInstances_over self hok)

/-- There, deleting the second worker takes its host `h2` out of the cluster and out of the
inventory. -/
theorem deleting_worker_frees_its_host :
    (keepShownames.deleteInstances (exampleManager.over scalingEndpoint) exampleCluster
      [⟨"worker-2", "10.0.0.4", ⟨["DATANODE"], exampleCluster⟩⟩]).result = .ok () ∧
    (exampleManager.commit scalingEndpoint (keepShownames.deleteInstances
      (exampleManager.over scalingEndpoint) exampleCluster
        [⟨"worker-2", "10.0.0.4", ⟨["DATANODE"], exampleCluster⟩⟩]).events).hosts =
      [⟨"h1", "worker-1"⟩, ⟨"h3", "manager"⟩] ∧
    (exampleManager.commit scalingEndpoint (keepShownames.deleteInstances
      (exampleManager.over scalingEndpoint) exampleCluster
        [⟨"worker-2", "10.0.0.4", ⟨["DATANODE"], exampleCluster⟩⟩]).events).clusterHosts =
      [("cluster", "h1"), ("cluster", "h3")] := by
  have hok : (keepShownames.deleteInstances (exampleManager.over scalingEndpoint) exampleCluster
      [⟨"worker-2", "10.0.0.4", ⟨["DATANODE"], exampleCluster⟩⟩]).result = .ok () := by decide
  refine ⟨hok, ?_⟩
  rw [deleteInstances_commit exampleManager keepShownames hok]
  constructor <;> decide

end Manager

end Sahara.Cdh

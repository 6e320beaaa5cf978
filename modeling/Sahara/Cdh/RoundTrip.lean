import Sahara.Cdh.Schedule

/-! Scaling out and back in.  Against an endpoint that accepts every call, the methods return
whenever the processes they are given are ones `get_service_by_role` supports.  Then
`refresh_nodes` after `configure_instances` refreshes the new roles after the old ones;
`configure_instances` on an instance, followed by `decommission_nodes` on each role it created under
the name it gave the role, leaves the manager exactly as it was; and `delete_instances` then takes
the instance's host out of the cluster and out of the inventory. -/

namespace Sahara.Cdh

namespace Manager

open Run ClouderaUtils

variable (m : Manager) (self : ClouderaUtils) {ep : Endpoint}

/-! ### Methods that return against an endpoint that accepts every call -/

theorem exists_over_ok (hep : ∀ c, (ep c).isOk) (c : Call) : ∃ a, m.over ep c = .ok a := by
  have h : (m.over ep c).isOk = true := (over_isOk ep c).trans (hep c)
  cases hc : m.over ep c with
  | error e => rw [hc] at h; cases h
  | ok a => exact ⟨a, rfl⟩

theorem getServiceByRole_result_ok (hep : ∀ c, (ep c).isOk) {process : String}
    {cluster : Option Cluster} {inst : Option Instance} (hci : cluster.isSome ∨ inst.isSome)
    (hsup : (serviceNameOf process).isSome) :
    ∃ service, (self.getServiceByRole (m.over ep) process cluster inst).result = .ok service := by
  obtain ⟨svc, hsvc⟩ := Option.isSome_iff_exists.mp hsup
  obtain ⟨c, hc⟩ : ∃ c, (match cluster, inst with
      | some c, _ => some c
      | none, some i => some i.nodeGroup.cluster
      | none, none => none) = some c := by
    rcases cluster with _ | c <;> rcases inst with _ | i
    · simp at hci
    all_goals exact ⟨_, rfl⟩
  obtain ⟨cm, hcm⟩ := m.exists_over_ok hep (.getCluster (self.getApiClient c) c.name)
  rcases cluster with _ | c' <;> rcases inst with _ | i <;> cases hc <;>
    simp only [getServiceByRole] <;>
    rw [result_bind_ok (show (self.getClouderaCluster (m.over ep) _).result = .ok cm from hcm)] <;>
    simp only [hsvc] <;>
    exact m.exists_over_ok hep (.getService cm svc)

theorem addRole_result_ok (hep : ∀ c, (ep c).isOk) {inst : Instance} {process : String}
    {cluster : Option Cluster}
    (hsup : process ∉ ["CLOUDERA_MANAGER"] →
      (serviceNameOf (self.convertRoleShowname process)).isSome) :
    (self.addRole (m.over ep) inst process cluster).result = .ok () := by
  dsimp only [addRole]
  split
  · rfl
  · rename_i hp
    obtain ⟨service, hs⟩ := m.getServiceByRole_result_ok self hep (.inr (rfl : (some inst).isSome = true)) (hsup hp)
    rw [result_bind_ok hs]
    obtain ⟨role, hrole⟩ := m.exists_over_ok hep (.createRole service
      (self.getRoleName inst (self.convertRoleShowname process)) (self.convertRoleShowname process)
      inst.fqdn)
    rw [result_bind_ok (show (ask (m.over ep) _).result = .ok role from hrole)]
    obtain ⟨⟨⟩, h⟩ := m.exists_over_ok hep (.updateConfig role
      (self.getConfigs (self.convertRoleShowname process) cluster inst.nodeGroup))
    exact h

theorem configureInstances_result_ok (hep : ∀ c, (ep c).isOk) {instances : List Instance}
    {cluster : Option Cluster}
    (hsup : ∀ inst ∈ instances, ∀ p ∈ inst.nodeGroup.nodeProcesses, p ∉ ["CLOUDERA_MANAGER"] →
      (serviceNameOf (self.convertRoleShowname p)).isSome) :
    (self.configureInstances (m.over ep) instances cluster).result = .ok () :=
  forM_result_ok_iff.mpr fun inst hi => forM_result_ok_iff.mpr fun _ hp =>
    m.addRole_result_ok self hep (hsup inst hi _ hp)

theorem decommissionNodes_result_ok (hep : ∀ c, (ep c).isOk) {cluster : Cluster}
    {process : String} {roleNames : List String} (hsup : (serviceNameOf process).isSome) :
    (self.decommissionNodes (m.over ep) cluster process roleNames).result = .ok () := by
  obtain ⟨service, hs⟩ := m.getServiceByRole_result_ok self hep (.inl (rfl : (some cluster).isSome = true)) hsup
  unfold decommissionNodes
  rw [result_bind_ok hs]
  obtain ⟨cmd, hcmd⟩ := m.exists_over_ok hep (.decommission service roleNames)
  rw [result_bind_ok (show (ask (m.over ep) _).result = .ok cmd from hcmd)]
  obtain ⟨r, hr⟩ := m.exists_over_ok hep (.wait cmd)
  rw [result_bind_ok (show (ask (m.over ep) _).result = .ok r from hr)]
  refine forM_result_ok_iff.mpr fun name _ => ?_
  obtain ⟨⟨⟩, h⟩ := m.exists_over_ok hep (.deleteRole service name)
  exact h

theorem deleteInstances_result_ok (hep : ∀ c, (ep c).isOk) (cluster : Cluster)
    (instances : List Instance) :
    (self.deleteInstances (m.over ep) cluster instances).result = .ok () := by
  obtain ⟨cm, hcm⟩ := m.exists_over_ok hep (.getCluster (self.getApiClient cluster) cluster.name)
  obtain ⟨hosts, hh⟩ := m.exists_over_ok hep (.getAllHosts (self.getApiClient cluster) "full")
  rw [deleteInstances_eq (m.over ep) self cluster instances hcm hh]
  refine forM_result_ok_iff.mpr fun host _ => (deleteInstanceHost_result_ok_iff _).mpr fun _ => ?_
  obtain ⟨⟨⟩, hr⟩ := m.exists_over_ok hep (.removeHost cm host.hostId)
  obtain ⟨⟨⟩, hd⟩ := m.exists_over_ok hep (.deleteHost (self.getApiClient cluster) host.hostId)
  exact ⟨hr, hd⟩

/-! ### Refreshing after scaling out -/

theorem over_eq_of_read {c : Call} {b : c.Answer} (hc : (ep c).isOk) (hr : m.read c = some b) :
    m.over ep c = .ok b := by
  rw [over_of_read hr]
  cases h : ep c with
  | error e => rw [h] at hc; cases hc
  | ok a => rfl

theorem waitError_over (cmd : ApiCommand) : waitError (m.over ep) cmd = waitError ep cmd := by
  unfold waitError
  rw [(over_of_not_read rfl : m.over ep (.wait cmd) = ep (.wait cmd))]

/-- Against the manager and an endpoint that accepts every call, `refresh_nodes` refreshes the roles
the manager holds of the process's type in the service, in the order it holds them, when every
refresh command passes. -/
theorem refreshNodes_over (hep : ∀ c, (ep c).isOk) (cluster : Cluster)
    (process serviceName : String) (cmds : String → List ApiCommand)
    (hrefresh : ∀ name, ep (.refresh ⟨cluster.name, serviceName⟩ name) = .ok (cmds name))
    (hpass : ∀ name, ∀ cmd ∈ cmds name, waitError ep cmd = none) :
    self.refreshNodes (m.over ep) cluster process serviceName =
      ⟨[.call (.getCluster (self.getApiClient cluster) cluster.name),
          .call (.getService ⟨cluster.name⟩ serviceName),
          .call (.getRolesByType ⟨cluster.name, serviceName⟩ process)] ++
        (m.getRolesByType ⟨cluster.name, serviceName⟩ process).flatMap (fun role =>
          .call (.refresh ⟨cluster.name, serviceName⟩ role.name) ::
            (cmds role.name).map fun cmd => .call (.wait cmd)), .ok ()⟩ :=
  refreshNodes_of_gen (m.over ep) self [.getCluster (self.getApiClient cluster) cluster.name,
      .getService ⟨cluster.name⟩ serviceName, .getRolesByType ⟨cluster.name, serviceName⟩ process]
    (refreshNodesGen_eq (m.over ep) self cluster process serviceName ⟨cluster.name⟩
      ⟨cluster.name, serviceName⟩ _ cmds (m.over_eq_of_read (hep _) rfl)
      (m.over_eq_of_read (hep _) rfl) (m.over_eq_of_read (hep _) rfl)
      (fun role _ => Eq.trans (over_of_not_read rfl) (hrefresh role.name)))
    (fun role _ cmd hc => (m.waitError_over cmd).trans (hpass role.name cmd hc))

/-- Against an endpoint that accepts every call, `refresh_nodes` after `configure_instances`
reaches the new roles.  `configure_instances` runs on instances whose processes
`get_service_by_role` supports and whose roles get new, distinct names.  Then `refresh_nodes`
refreshes the roles of the process's type in the service that the manager held before, followed by
those `configure_instances` created with that service and type, in the order it created them.  It
waits on the commands of each refresh before the next, when every refresh command passes. -/
theorem refresh_after_scaling_out_reaches_new_roles (hep : ∀ c, (ep c).isOk)
    {instances : List Instance} {configCluster : Option Cluster}
    (hsup : ∀ inst ∈ instances, ∀ p ∈ inst.nodeGroup.nodeProcesses, p ∉ ["CLOUDERA_MANAGER"] →
      (serviceNameOf (self.convertRoleShowname p)).isSome)
    (hfresh : ((m.roles ++ self.plannedRoles instances configCluster).map RoleRow.name).Nodup)
    (cluster : Cluster) (process serviceName : String) (cmds : String → List ApiCommand)
    (hrefresh : ∀ name, ep (.refresh ⟨cluster.name, serviceName⟩ name) = .ok (cmds name))
    (hpass : ∀ name, ∀ cmd ∈ cmds name, waitError ep cmd = none) :
    self.refreshNodes ((m.runAll self [(.configureInstances instances configCluster, ep)]).2.over ep)
        cluster process serviceName =
      ⟨[.call (.getCluster (self.getApiClient cluster) cluster.name),
          .call (.getService ⟨cluster.name⟩ serviceName),
          .call (.getRolesByType ⟨cluster.name, serviceName⟩ process)] ++
        (m.getRolesByType ⟨cluster.name, serviceName⟩ process ++
          ((self.plannedRoles instances configCluster).filter fun r : RoleRow =>
            r.service == ⟨cluster.name, serviceName⟩ && r.type == process).map
              fun r : RoleRow => (⟨r.name⟩ : ApiRole)
        ).flatMap (fun role => .call (.refresh ⟨cluster.name, serviceName⟩ role.name) ::
          (cmds role.name).map fun cmd => .call (.wait cmd)), .ok ()⟩ := by
  show self.refreshNodes ((m.commit ep
    (self.configureInstances (m.over ep) instances configCluster).events).over ep) _ _ _ = _
  rw [m.commit_configureInstances self m (m.configureInstances_result_ok self hep hsup) hfresh,
    refreshNodes_over _ self hep cluster process serviceName cmds hrefresh hpass,
    getRolesByType_addRoles]

/-! ### Scaling up and back down -/

theorem filter_deleted_role {base rest : List RoleRow} {row : RoleRow}
    (hn : ((base ++ row :: rest).map RoleRow.name).Nodup) :
    (base ++ row :: rest).filter (fun r => ¬(r.service = row.service ∧ r.name ∈ [row.name])) =
      base ++ rest := by
  rw [List.map_append, List.map_cons, List.nodup_append, List.nodup_cons] at hn
  obtain ⟨-, ⟨hrest, -⟩, hdisj⟩ := hn
  have hkeep (l : List RoleRow) (hl : row.name ∉ l.map RoleRow.name) :
      l.filter (fun r => ¬(r.service = row.service ∧ r.name ∈ [row.name])) = l :=
    List.filter_eq_self.mpr fun r hr => decide_eq_true fun ⟨_, he⟩ =>
      hl (List.mem_singleton.mp he ▸ List.mem_map_of_mem _ hr)
  rw [List.filter_append, List.filter_cons_of_neg (by simp), hkeep base
    (fun h => hdisj h (List.mem_cons_self _ _)), hkeep rest hrest]

end Manager

namespace ClouderaUtils

variable (self : ClouderaUtils)

/-- `decommission_nodes` on each role `configure_instance` creates on the instance, under the name it
gives the role, one process after another, each against the endpoint `ep`. -/
def decommissionOps (inst : Instance) (cluster : Cluster) (ep : Endpoint) : List (Op × Endpoint) :=
  (inst.nodeGroup.nodeProcesses.filter (· ∉ ["CLOUDERA_MANAGER"])).map fun p =>
    (.decommissionNodes cluster (self.convertRoleShowname p)
      [self.getRoleName inst (self.convertRoleShowname p)], ep)

end ClouderaUtils

namespace Manager

open Run ClouderaUtils

variable (m : Manager) (self : ClouderaUtils) {ep : Endpoint}

/-- One step of scaling back down: `decommission_nodes` on the role a process of the instance plans,
under its planned name, deletes that role and nothing else from a manager that holds it among roles
with distinct names. -/
theorem commit_decommissionNodes_planned (hep : ∀ c, (ep c).isOk) {inst : Instance}
    {cluster : Cluster} {configCluster : Option Cluster}
    (hcluster : inst.nodeGroup.cluster.name = cluster.name) {p : String} {row : RoleRow}
    (hplan : self.plannedRole inst configCluster p = some row) (n : Manager)
    {base rest : List RoleRow} (hroles : n.roles = base ++ row :: rest)
    (hnodup : (n.roles.map RoleRow.name).Nodup) :
    n.commit ep (self.decommissionNodes (n.over ep) cluster (self.convertRoleShowname p)
      [self.getRoleName inst (self.convertRoleShowname p)]).events = { n with roles := base ++ rest } := by
  rw [plannedRole] at hplan
  split at hplan
  · cases hplan
  obtain ⟨svc, hsvc, rfl⟩ := Option.map_eq_some'.mp hplan
  have hok : (self.decommissionNodes (n.over ep) cluster (self.convertRoleShowname p)
      [self.getRoleName inst (self.convertRoleShowname p)]).result = .ok () :=
    n.decommissionNodes_result_ok self hep (Option.isSome_iff_exists.mpr ⟨svc, hsvc⟩)
  obtain ⟨svc', hsvc', hcommit⟩ := n.commit_decommissionNodes self n hok
  obtain rfl : svc = svc' := Option.some.inj (hsvc.symm.trans hsvc')
  rw [hcommit]
  refine Manager.ext rfl rfl ?_
  show n.roles.filter _ = _
  rw [hroles] at hnodup ⊢
  rw [← hcluster]
  exact filter_deleted_role hnodup

/-- Against a manager that holds, after the roles `base`, the roles some of an instance's processes
plan, the decommissions of those processes' roles leave it with `base`. -/
theorem runAll_decommissions (hep : ∀ c, (ep c).isOk) {inst : Instance} {cluster : Cluster}
    {configCluster : Option Cluster} (hcluster : inst.nodeGroup.cluster.name = cluster.name)
    (base : List RoleRow) (ps : List String)
    (hsup : ∀ p ∈ ps, p ∉ ["CLOUDERA_MANAGER"] →
      (serviceNameOf (self.convertRoleShowname p)).isSome)
    (n : Manager) (hroles : n.roles = base ++ ps.filterMap (self.plannedRole inst configCluster))
    (hnodup : (n.roles.map RoleRow.name).Nodup) :
    (n.runAll self ((ps.filter (· ∉ ["CLOUDERA_MANAGER"])).map fun p =>
      (.decommissionNodes cluster (self.convertRoleShowname p)
        [self.getRoleName inst (self.convertRoleShowname p)], ep))).2 = { n with roles := base } := by
  induction ps generalizing n with
  | nil => ext1 <;> simp [Manager.runAll, hroles]
  | cons p ps ih =>
    have hsup' := fun q hq => hsup q (List.mem_cons_of_mem p hq)
    by_cases hp : p ∈ ["CLOUDERA_MANAGER"]
    · rw [List.filter_cons_of_neg (by simpa using hp)]
      rw [List.filterMap_cons_none (by simp only [plannedRole, hp, ite_true])] at hroles
      exact ih hsup' n hroles hnodup
    cases hplan : self.plannedRole inst configCluster p with
    | none =>
      rw [plannedRole, if_neg hp, Option.map_eq_none'] at hplan
      simpa [hplan] using hsup p (List.mem_cons_self p ps) hp
    | some row =>
      rw [List.filterMap_cons_some hplan] at hroles
      rw [List.filter_cons_of_pos (by simpa using hp), List.map_cons]
      show ((n.commit ep (self.decommissionNodes (n.over ep) cluster _ _).events).runAll self _).2 = _
      rw [commit_decommissionNodes_planned self hep hcluster hplan n hroles hnodup,
        ih hsup' _ rfl ((hroles ▸ hnodup).sublist
          (((List.sublist_cons_self _ _).append_left base).map _))]

/-- Against an endpoint that accepts every call, scaling an instance up and back down leaves the
manager as it was.  `configure_instances` on the instance adds the roles its processes plan, when
`get_service_by_role` supports those processes and the roles' names are new to the manager and
distinct; `decommission_nodes` on each of those roles, under the name `_get_role_name` gave it,
deletes them again, one after another.  Deleting the instance after that takes its host out of the
cluster and out of the inventory and changes nothing else.  Every one of these calls returns. -/
theorem scaling_down_undoes_scaling_up (hep : ∀ c, (ep c).isOk) {inst : Instance}
    {cluster : Cluster} {configCluster : Option Cluster}
    (hcluster : inst.nodeGroup.cluster.name = cluster.name)
    (hsup : ∀ p ∈ inst.nodeGroup.nodeProcesses, p ∉ ["CLOUDERA_MANAGER"] →
      (serviceNameOf (self.convertRoleShowname p)).isSome)
    (hfresh : ((m.roles ++ self.plannedRoles [inst] configCluster).map RoleRow.name).Nodup) :
    m.runsReturn self ((.configureInstances [inst] configCluster, ep) ::
      self.decommissionOps inst cluster ep ++ [(.deleteInstances cluster [inst], ep)]) ∧
    (m.runAll self ((.configureInstances [inst] configCluster, ep) ::
      self.decommissionOps inst cluster ep)).2 = m ∧
    (m.runAll self ((.configureInstances [inst] configCluster, ep) ::
      self.decommissionOps inst cluster ep ++ [(.deleteInstances cluster [inst], ep)])).2 =
      m.dropHosts cluster.name [inst.fqdn] := by
  have hplanned : self.plannedRoles [inst] configCluster =
      inst.nodeGroup.nodeProcesses.filterMap (self.plannedRole inst configCluster) :=
    List.append_nil _
  have hdown : (m.runAll self ((.configureInstances [inst] configCluster, ep) ::
      self.decommissionOps inst cluster ep)).2 = m := by
    show ((m.commit ep (self.configureInstances (m.over ep) [inst] configCluster).events).runAll
      self (self.decommissionOps inst cluster ep)).2 = m
    rw [m.commit_configureInstances self m (m.configureInstances_result_ok self hep
      fun i hi => List.mem_singleton.mp hi ▸ hsup) hfresh, hplanned]
    rw [hplanned] at hfresh
    exact runAll_decommissions self hep hcluster m.roles _ hsup _ rfl hfresh
  have hreturn : m.runsReturn self ((.configureInstances [inst] configCluster, ep) ::
      self.decommissionOps inst cluster ep ++ [(.deleteInstances cluster [inst], ep)]) := by
    refine runsReturn_of_forall m self fun r hr n => ?_
    simp only [List.cons_append, List.mem_cons, List.mem_append, List.not_mem_nil, or_false] at hr
    rcases hr with rfl | hr | rfl
    · exact n.configureInstances_result_ok self hep fun i hi => List.mem_singleton.mp hi ▸ hsup
    · obtain ⟨p, hp, rfl⟩ := List.mem_map.mp hr
      obtain ⟨hp, hcm⟩ := List.mem_filter.mp hp
      exact n.decommissionNodes_result_ok self hep (hsup p hp (of_decide_eq_true hcm))
    · exact n.deleteInstances_result_ok self hep cluster [inst]
  refine ⟨hreturn, hdown, ?_⟩
  rw [runAll_append, hdown]
  exact m.commit_of_deleteCalls
    (m.deleteInstances_over self (m.deleteInstances_result_ok self hep cluster [inst]))

end Manager

/-- An endpoint that accepts every call. -/
def acceptingEndpoint : Endpoint
  | .getCluster _ name => .ok ⟨name⟩
  | .getService cluster name => .ok ⟨cluster.name, name⟩
  | .cmGetService _ => .ok ⟨"cluster", "mgmt"⟩
  | .getAllHosts .. | .getRolesByType .. | .startRoles .. => .ok []
  | .refresh .. => .ok [⟨9⟩]
  | .clusterStart _ | .clusterDeployClientConfig _ | .deployClientConfig .. | .restart _
  | .serviceStart _ | .decommission .. => .ok ⟨9⟩
  | .wait _ => .ok ⟨true, "Finished", none⟩
  | .getClouderaManager api => .ok ⟨api⟩
  | .createRole _ name .. => .ok ⟨name⟩
  | .utcnow => .ok (0 : Instant)
  | .removeHost .. | .deleteHost .. | .deleteRole .. | .updateConfig .. | .createMgmtService ..
  | .hostsStartRoles .. | .sleep _ => .ok ()

theorem acceptingEndpoint_isOk (c : Call) : (acceptingEndpoint c).isOk := by
  cases c <;> rfl

/-- A node manager for the second worker of the example manager. -/
def nodeManagerOnWorker2 : Instance := ⟨"worker-2", "10.0.0.4", ⟨["NODEMANAGER"], exampleCluster⟩⟩

/-- The node manager added to the second worker of the example manager and decommissioned again
leaves the manager as it was; deleting the worker then drops its host; every call returns. -/
theorem node_manager_scales_up_and_back_down :
    exampleManager.runsReturn keepShownames
      ((.configureInstances [nodeManagerOnWorker2] none, acceptingEndpoint) ::
        keepShownames.decommissionOps nodeManagerOnWorker2 exampleCluster acceptingEndpoint ++
        [(.deleteInstances exampleCluster [nodeManagerOnWorker2], acceptingEndpoint)]) ∧
    (exampleManager.runAll keepShownames
      ((.configureInstances [nodeManagerOnWorker2] none, acceptingEndpoint) ::
        keepShownames.decommissionOps nodeManagerOnWorker2 exampleCluster
          acceptingEndpoint)).2 = exampleManager ∧
    (exampleManager.runAll keepShownames
      ((.configureInstances [nodeManagerOnWorker2] none, acceptingEndpoint) ::
        keepShownames.decommissionOps nodeManagerOnWorker2 exampleCluster acceptingEndpoint ++
        [(.deleteInstances exampleCluster [nodeManagerOnWorker2], acceptingEndpoint)])).2 =
      exampleManager.dropHosts "cluster" ["worker-2"] :=
  Manager.scaling_down_undoes_scaling_up exampleManager keepShownames acceptingEndpoint_isOk rfl
    (by decide) (by decide)

/-- On the example manager, adding a third worker and then refreshing the data nodes of `hdfs01`
refreshes the two there before and then the new one, waiting on the command of each. -/
theorem refreshing_after_adding_worker_reaches_it :
    keepShownames.refreshNodes ((exampleManager.runAll keepShownames
        [(.configureInstances [worker3] none, acceptingEndpoint)]).2.over acceptingEndpoint)
        exampleCluster "DATANODE" "hdfs01" =
      ⟨[.call (.getCluster ⟨"10.0.0.2", "admin", "admin", 6⟩ "cluster"),
        .call (.getService ⟨"cluster"⟩ "hdfs01"),
        .call (.getRolesByType ⟨"cluster", "hdfs01"⟩ "DATANODE"),
        .call (.refresh ⟨"cluster", "hdfs01"⟩ "DATANODE_worker-1"), .call (.wait ⟨9⟩),
        .call (.refresh ⟨"cluster", "hdfs01"⟩ "DATANODE_worker-2"), .call (.wait ⟨9⟩),
        .call (.refresh ⟨"cluster", "hdfs01"⟩ "DATANODE_worker-3"), .call (.wait ⟨9⟩)], .ok ()⟩ := by
  rw [Manager.refresh_after_scaling_out_reaches_new_roles exampleManager keepShownames
    acceptingEndpoint_isOk (by decide) (by decide) exampleCluster "DATANODE" "hdfs01"
    (fun _ => [⟨9⟩]) (fun _ => rfl) (fun _ _ h => by obtain rfl := List.mem_singleton.mp h; rfl)]
  rfl

end Sahara.Cdh

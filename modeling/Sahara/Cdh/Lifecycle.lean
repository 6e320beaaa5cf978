import Mathlib.Data.List.Basic
import Sahara.Cdh.CommandRunner

/-! What the plugin's calls on hosts and roles do.  `get_service_by_role` only reaches a cluster and
asks it for a service.  `refresh_nodes` waits on each role's refresh commands before it refreshes
the next role.  `decommission_nodes` deletes the roles once the decommission command has finished,
whatever its result.  `delete_instances` removes and deletes exactly the listed hosts, and the first
of its calls that raises ends it.  `configure_instance` creates one role per declared process but
the manager's; `update_configs` deploys the configuration of the same roles, but it does not skip
the manager's process and raises on it. -/

namespace Sahara.Cdh

open Run ClouderaUtils

variable (ep : Endpoint) (self : ClouderaUtils)

theorem ask_bind_of_ok {β : Type} {c : Call} {a : c.Answer} {f : c.Answer → Run Event β}
    (h : ep c = .ok a) : ask ep c >>= f = ⟨.call c :: (f a).events, (f a).result⟩ := by
  simp [ask, h]

theorem getServiceByRole_events {process : String} {cluster : Option Cluster}
    {inst : Option Instance} {ev : Event}
    (h : ev ∈ (self.getServiceByRole ep process cluster inst).events) :
    (∃ api name, ev = .call (.getCluster api name)) ∨
      ∃ cm name, ev = .call (.getService cm name) := by
  simp only [getServiceByRole] at h
  split at h <;> rcases mem_bind_events h with h | ⟨cm, h⟩
  all_goals first
    | exact .inl ⟨_, _, List.mem_singleton.mp h⟩
    | cases h
    | split at h
  all_goals first
    | exact .inr ⟨_, _, List.mem_singleton.mp h⟩
    | cases h

/-- Plugin utilities that leave process names as they are, for the examples. -/
def keepShownames : ClouderaUtils where
  getManager cluster := ⟨"manager", "10.0.0.2", ⟨["CLOUDERA_MANAGER"], cluster⟩⟩
  convertRoleShowname process := process
  getRoleName inst process := process ++ "_" ++ inst.fqdn
  getConfigs _ _ _ := []

/-- The cluster of the examples. -/
def exampleCluster : Cluster := ⟨"c", "cluster", "Active", false, 0⟩

/-! ### `refresh_nodes` -/

@[simp] theorem forM_yieldCommand (cmds : List ApiCommand) :
    cmds.forM yieldCommand = ⟨cmds.map Event.yield, .ok ()⟩ := by
  induction cmds with
  | nil => rfl
  | cons cmd cmds ih => simp [List.forM_cons', yieldCommand, ih]

theorem refresh_forM_eq (service : ApiService) (roles : List ApiRole)
    (cmds : String → List ApiCommand)
    (hrefresh : ∀ role ∈ roles, ep (.refresh service role.name) = .ok (cmds role.name)) :
    ((roles.map ApiRole.name).forM fun nd => do
        (← ask ep (.refresh service nd)).forM yieldCommand) =
      ⟨roles.flatMap fun role => .call (.refresh service role.name) :: (cmds role.name).map .yield,
        .ok ()⟩ := by
  induction roles with
  | nil => rfl
  | cons role roles ih =>
    rw [List.map_cons, List.forM_cons', ih fun r hr => hrefresh r (List.mem_cons_of_mem _ hr)]
    simp [ask, hrefresh role (List.mem_cons_self _ _)]

theorem refreshNodesGen_eq (cluster : Cluster) (process serviceName : String)
    (cmCluster : ApiCluster) (service : ApiService) (roles : List ApiRole)
    (cmds : String → List ApiCommand)
    (hcl : ep (.getCluster (self.getApiClient cluster) cluster.name) = .ok cmCluster)
    (hsvc : ep (.getService cmCluster serviceName) = .ok service)
    (hroles : ep (.getRolesByType service process) = .ok roles)
    (hrefresh : ∀ role ∈ roles, ep (.refresh service role.name) = .ok (cmds role.name)) :
    self.refreshNodesGen ep cluster process serviceName =
      ⟨[.call (.getCluster (self.getApiClient cluster) cluster.name),
          .call (.getService cmCluster serviceName), .call (.getRolesByType service process)] ++
        roles.flatMap (fun role => .call (.refresh service role.name) ::
          (cmds role.name).map .yield), .ok ()⟩ := by
  simp only [refreshNodesGen, getClouderaCluster, ask_bind_of_ok ep hcl, ask_bind_of_ok ep hsvc,
    ask_bind_of_ok ep hroles, refresh_forM_eq ep service roles cmds hrefresh]
  rfl

/-- The wrapper around a `refresh_nodes` generator that yields the commands of each role's
refresh, when every one of them passes. -/
theorem refreshNodes_of_gen {cluster : Cluster} {process serviceName : String}
    (pre : List Call) {service : ApiService} {roles : List ApiRole}
    {cmds : String → List ApiCommand}
    (hgen : self.refreshNodesGen ep cluster process serviceName =
      ⟨pre.map .call ++ roles.flatMap (fun role => .call (.refresh service role.name) ::
          (cmds role.name).map .yield), .ok ()⟩)
    (hpass : ∀ role ∈ roles, ∀ cmd ∈ cmds role.name, waitError ep cmd = none) :
    self.refreshNodes ep cluster process serviceName =
      ⟨pre.map .call ++ roles.flatMap (fun role => .call (.refresh service role.name) ::
          (cmds role.name).map fun cmd => .call (.wait cmd)), .ok ()⟩ := by
  have hall : AllPass ep (self.refreshNodesGen ep cluster process serviceName).events := by
    intro cmd hm
    simp only [hgen, List.mem_append, List.mem_map, List.mem_flatMap, List.mem_cons, reduceCtorEq,
      Event.yield.injEq, exists_eq_right, and_false, exists_false, false_or] at hm
    obtain ⟨role, hr, hc⟩ := hm
    exact hpass role hr cmd hc
  rw [refreshNodes, clouderaCmd, clouderaCmdLoop_pass ep _ _ hall, hgen]
  simp [waitFor, List.map_flatMap, Function.comp_def]

/-- `refresh_nodes`, when its calls answer and every refresh command passes, refreshes the roles of
the process's type in the order the service lists them, and waits on the commands of each role's
refresh, in the order the refresh returns them, before it refreshes the next role. -/
theorem refreshNodes_waits_per_role (cluster : Cluster) (process serviceName : String)
    (cmCluster : ApiCluster) (service : ApiService) (roles : List ApiRole)
    (cmds : String → List ApiCommand)
    (hcl : ep (.getCluster (self.getApiClient cluster) cluster.name) = .ok cmCluster)
    (hsvc : ep (.getService cmCluster serviceName) = .ok service)
    (hroles : ep (.getRolesByType service process) = .ok roles)
    (hrefresh : ∀ role ∈ roles, ep (.refresh service role.name) = .ok (cmds role.name))
    (hpass : ∀ role ∈ roles, ∀ cmd ∈ cmds role.name, waitError ep cmd = none) :
    self.refreshNodes ep cluster process serviceName =
      ⟨[.call (.getCluster (self.getApiClient cluster) cluster.name),
          .call (.getService cmCluster serviceName), .call (.getRolesByType service process)] ++
        roles.flatMap (fun role => .call (.refresh service role.name) ::
          (cmds role.name).map fun cmd => .call (.wait cmd)), .ok ()⟩ :=
  refreshNodes_of_gen ep self [.getCluster (self.getApiClient cluster) cluster.name,
      .getService cmCluster serviceName, .getRolesByType service process]
    (refreshNodesGen_eq ep self cluster process serviceName cmCluster service roles cmds hcl hsvc
      hroles hrefresh) hpass

/-- An endpoint on which the data nodes `dn1` and `dn2` each refresh with one command, which
passes. -/
def refreshEndpoint : Endpoint := fun
  | .getCluster _ name => .ok ⟨name⟩
  | .getService cluster name => .ok ⟨cluster.name, name⟩
  | .getRolesByType .. => .ok [⟨"dn1"⟩, ⟨"dn2"⟩]
  | .refresh .. => .ok [⟨3⟩]
  | .wait _ => .ok ⟨true, "Refreshed", none⟩
  | _ => .error (.raised "ApiException" "unexpected call")

/-- There, `refresh_nodes` refreshes `dn1`, waits on its command, then does the same for `dn2`. -/
theorem refreshNodes_refreshes_data_nodes :
    keepShownames.refreshNodes refreshEndpoint exampleCluster "DATANODE" "hdfs01" =
      ⟨[.call (.getCluster ⟨"10.0.0.2", "admin", "admin", 6⟩ "cluster"),
        .call (.getService ⟨"cluster"⟩ "hdfs01"),
        .call (.getRolesByType ⟨"cluster", "hdfs01"⟩ "DATANODE"),
        .call (.refresh ⟨"cluster", "hdfs01"⟩ "dn1"), .call (.wait ⟨3⟩),
        .call (.refresh ⟨"cluster", "hdfs01"⟩ "dn2"), .call (.wait ⟨3⟩)], .ok ()⟩ :=
  refreshNodes_waits_per_role refreshEndpoint keepShownames exampleCluster "DATANODE" "hdfs01"
    ⟨"cluster"⟩ ⟨"cluster", "hdfs01"⟩ _ (fun _ => [⟨3⟩]) rfl rfl rfl (fun _ _ => rfl)
    (fun _ _ _ _ => rfl)

/-! ### `decommission_nodes` -/

/-- `decommission_nodes` does not read the result of the decommission command: once the command
has finished, whatever its result, it deletes every role of the batch, once each and in order, and
returns normally when the deletions do. -/
theorem decommissionNodes_ignores_command_result (cluster : Cluster) (process : String)
    (roleNames : List String) (service : ApiService) (cmd : ApiCommand) (result : CommandResult)
    (hsvc : (self.getServiceByRole ep process (some cluster) none).result = .ok service)
    (hdec : ep (.decommission service roleNames) = .ok cmd) (hwait : ep (.wait cmd) = .ok result)
    (hdel : ∀ name ∈ roleNames, ep (.deleteRole service name) = .ok ()) :
    self.decommissionNodes ep cluster process roleNames =
      ⟨(self.getServiceByRole ep process (some cluster) none).events ++
        [.call (.decommission service roleNames), .call (.wait cmd)] ++
        roleNames.map (fun name => .call (.deleteRole service name)), .ok ()⟩ := by
  rw [decommissionNodes, bind_ok hsvc]
  simp only [ask, invoke_bind, hdec, hwait, bind_invoke_ok]
  obtain ⟨hr, he⟩ := @forM_ok Event String roleNames
    (fun name => invoke (.call (.deleteRole service name)) (ep (.deleteRole service name))) hdel
  rw [hr, he, List.map_eq_flatMap]
  simp

/-- An endpoint on which the decommission command finishes and fails. -/
def decommissionFails : Endpoint := fun
  | .getCluster _ name => .ok ⟨name⟩
  | .getService cluster name => .ok ⟨cluster.name, name⟩
  | .decommission .. => .ok ⟨7⟩
  | .wait _ => .ok ⟨false, "Decommission failed", none⟩
  | .deleteRole .. => .ok ()
  | _ => .error (.raised "ApiException" "unexpected call")

/-- There, `decommission_nodes` deletes both roles after the failed command, and returns. -/
theorem decommissionNodes_deletes_after_failed_command :
    decommissionFails (.wait ⟨7⟩) = .ok ⟨false, "Decommission failed", none⟩ ∧
    keepShownames.decommissionNodes decommissionFails exampleCluster "DATANODE" ["dn1", "dn2"] =
      ⟨[.call (.getCluster ⟨"10.0.0.2", "admin", "admin", 6⟩ "cluster"),
        .call (.getService ⟨"cluster"⟩ "hdfs01"),
        .call (.decommission ⟨"cluster", "hdfs01"⟩ ["dn1", "dn2"]), .call (.wait ⟨7⟩),
        .call (.deleteRole ⟨"cluster", "hdfs01"⟩ "dn1"), .call (.deleteRole ⟨"cluster", "hdfs01"⟩ "dn2")],
        .ok ()⟩ :=
  ⟨rfl, decommissionNodes_ignores_command_result decommissionFails keepShownames exampleCluster
    "DATANODE" ["dn1", "dn2"] ⟨"cluster", "hdfs01"⟩ ⟨7⟩ _ rfl rfl rfl fun _ _ => rfl⟩

/-! ### `delete_instances` -/

/-- The calls `delete_instances` makes on a listed host: remove it from the cluster, then delete
it. -/
def removeAndDeleteCalls (api : ApiResource) (cmCluster : ApiCluster) (host : ApiHost) :
    List Event :=
  [.call (.removeHost cmCluster host.hostId), .call (.deleteHost api host.hostId)]

/-- The hosts a run removes from a cluster or deletes, in order. -/
def touchedHosts : List Event → List String :=
  List.filterMap fun
    | .call (.removeHost _ hostId) => some hostId
    | .call (.deleteHost _ hostId) => some hostId
    | _ => none

@[simp] theorem touchedHosts_append (evs evs' : List Event) :
    touchedHosts (evs ++ evs') = touchedHosts evs ++ touchedHosts evs' := List.filterMap_append ..

section DeleteInstanceHost

variable {api : ApiResource} {cmCluster : ApiCluster} {names : List String} {host : ApiHost}

theorem deleteInstanceHost_listed_ok (h : host.hostname ∈ names)
    (hok : ep (.removeHost cmCluster host.hostId) = .ok () ∧
      ep (.deleteHost api host.hostId) = .ok ()) :
    deleteInstanceHost ep api cmCluster names host =
      ⟨removeAndDeleteCalls api cmCluster host, .ok ()⟩ := by
  simp [deleteInstanceHost, h, ask, hok.1, hok.2, removeAndDeleteCalls]

theorem deleteInstanceHost_result_ok_iff :
    (deleteInstanceHost ep api cmCluster names host).result = .ok () ↔
      (host.hostname ∈ names →
        ep (.removeHost cmCluster host.hostId) = .ok () ∧
          ep (.deleteHost api host.hostId) = .ok ()) := by
  by_cases h : host.hostname ∈ names
  · simp only [deleteInstanceHost, h, ite_true, ask, invoke_bind, true_implies]
    cases ep (.removeHost cmCluster host.hostId) with
    | error e => simp
    | ok _ => exact ⟨fun h => ⟨rfl, h⟩, And.right⟩
  · simp [deleteInstanceHost, h]

/-- A host's iteration raises what the first of its calls that raises raises. -/
theorem deleteInstanceHost_result_error {e : PyError} :
    (deleteInstanceHost ep api cmCluster names host).result = .error e ↔
      host.hostname ∈ names ∧ (ep (.removeHost cmCluster host.hostId) = .error e ∨
        ep (.removeHost cmCluster host.hostId) = .ok () ∧ ep (.deleteHost api host.hostId) = .error e) := by
  by_cases h : host.hostname ∈ names
  · simp only [deleteInstanceHost, h, ite_true, ask, invoke_bind, true_and]
    cases ep (.removeHost cmCluster host.hostId) with
    | error _ => simp
    | ok u =>
      obtain rfl : u = () := rfl
      cases ep (.deleteHost api host.hostId) <;> simp
  · simp [deleteInstanceHost, h]

theorem touchedHosts_deleteInstanceHost :
    ∀ id ∈ touchedHosts (deleteInstanceHost ep api cmCluster names host).events,
      id = host.hostId ∧ host.hostname ∈ names := by
  by_cases h : host.hostname ∈ names
  · simp only [deleteInstanceHost, h, ite_true, ask, invoke_bind]
    cases ep (.removeHost cmCluster host.hostId) <;> simp [touchedHosts, h]
  · simp [deleteInstanceHost, h, touchedHosts]

/-- When no call on a listed host raises, the loop removes and deletes the listed hosts, in
order. -/
theorem deleteInstanceHost_loop (hosts : List ApiHost)
    (hok : ∀ host ∈ hosts, host.hostname ∈ names →
      ep (.removeHost cmCluster host.hostId) = .ok () ∧ ep (.deleteHost api host.hostId) = .ok ()) :
    hosts.forM (deleteInstanceHost ep api cmCluster names) =
      ⟨(hosts.filter fun host => host.hostname ∈ names).flatMap
        (removeAndDeleteCalls api cmCluster), .ok ()⟩ := by
  induction hosts with
  | nil => rfl
  | cons host hosts ih =>
    rw [List.forM_cons', ih fun h hm => hok h (List.mem_cons_of_mem host hm)]
    by_cases h : host.hostname ∈ names
    · rw [deleteInstanceHost_listed_ok ep h (hok host (List.mem_cons_self host hosts) h)]
      simp [h]
    · simp [deleteInstanceHost, h]

end DeleteInstanceHost

theorem deleteInstances_eq (cluster : Cluster) (instances : List Instance) {cmCluster : ApiCluster}
    {hosts : List ApiHost}
    (hcl : ep (.getCluster (self.getApiClient cluster) cluster.name) = .ok cmCluster)
    (hhosts : ep (.getAllHosts (self.getApiClient cluster) "full") = .ok hosts) :
    self.deleteInstances ep cluster instances =
      ⟨[.call (.getCluster (self.getApiClient cluster) cluster.name),
          .call (.getAllHosts (self.getApiClient cluster) "full")] ++
        (hosts.forM (deleteInstanceHost ep (self.getApiClient cluster) cmCluster
          (instances.map Instance.fqdn))).events,
        (hosts.forM (deleteInstanceHost ep (self.getApiClient cluster) cmCluster
          (instances.map Instance.fqdn))).result⟩ := by
  simp only [deleteInstances, getClouderaCluster, ask, invoke_bind, hcl, hhosts]
  rfl

/-- `delete_instances` removes and deletes only hosts of the inventory named like one of the
instances, whatever its calls raise.  When none of its calls raises, it removes and then deletes
each such host once, in the order of the inventory.  A call that raises on one of them ends it: no
host after that one is touched, and `delete_instances` raises what that call raised. -/
theorem deleteInstances_calls (cluster : Cluster) (instances : List Instance)
    (cmCluster : ApiCluster) (hosts : List ApiHost)
    (hcl : ep (.getCluster (self.getApiClient cluster) cluster.name) = .ok cmCluster)
    (hhosts : ep (.getAllHosts (self.getApiClient cluster) "full") = .ok hosts) :
    (∀ id ∈ touchedHosts (self.deleteInstances ep cluster instances).events,
      ∃ host ∈ hosts, host.hostId = id ∧ host.hostname ∈ instances.map Instance.fqdn) ∧
    ((∀ host ∈ hosts, host.hostname ∈ instances.map Instance.fqdn →
        ep (.removeHost cmCluster host.hostId) = .ok () ∧
        ep (.deleteHost (self.getApiClient cluster) host.hostId) = .ok ()) →
      self.deleteInstances ep cluster instances =
        ⟨[.call (.getCluster (self.getApiClient cluster) cluster.name),
            .call (.getAllHosts (self.getApiClient cluster) "full")] ++
          (hosts.filter fun host => host.hostname ∈ instances.map Instance.fqdn).flatMap
            (removeAndDeleteCalls (self.getApiClient cluster) cmCluster), .ok ()⟩) ∧
    (∀ pre host post, hosts = pre ++ host :: post →
      (∀ h ∈ pre, h.hostname ∈ instances.map Instance.fqdn →
        ep (.removeHost cmCluster h.hostId) = .ok () ∧
        ep (.deleteHost (self.getApiClient cluster) h.hostId) = .ok ()) →
      ¬(host.hostname ∈ instances.map Instance.fqdn →
        ep (.removeHost cmCluster host.hostId) = .ok () ∧
        ep (.deleteHost (self.getApiClient cluster) host.hostId) = .ok ()) →
      ∃ e, (ep (.removeHost cmCluster host.hostId) = .error e ∨
          ep (.removeHost cmCluster host.hostId) = .ok () ∧
          ep (.deleteHost (self.getApiClient cluster) host.hostId) = .error e) ∧
        self.deleteInstances ep cluster instances =
          ⟨[.call (.getCluster (self.getApiClient cluster) cluster.name),
              .call (.getAllHosts (self.getApiClient cluster) "full")] ++
            (pre.filter fun h => h.hostname ∈ instances.map Instance.fqdn).flatMap
              (removeAndDeleteCalls (self.getApiClient cluster) cmCluster) ++
            (deleteInstanceHost ep (self.getApiClient cluster) cmCluster
              (instances.map Instance.fqdn) host).events, .error e⟩) := by
  rw [deleteInstances_eq ep self cluster instances hcl hhosts]
  refine ⟨fun id hid => ?_, fun hok => by rw [deleteInstanceHost_loop ep hosts hok], ?_⟩
  · rw [touchedHosts_append] at hid
    obtain ⟨ev, hev, hf⟩ := List.mem_filterMap.mp ((List.mem_append.mp hid).resolve_left nofun)
    obtain ⟨host, hm, hev⟩ := mem_forM_events hev
    obtain ⟨rfl, hl⟩ := touchedHosts_deleteInstanceHost ep id (List.mem_filterMap.mpr ⟨ev, hev, hf⟩)
    exact ⟨host, hm, rfl, hl⟩
  · rintro pre host post rfl hpre hfail
    rw [← deleteInstanceHost_result_ok_iff] at hfail
    cases hr : (deleteInstanceHost ep (self.getApiClient cluster) cmCluster
      (instances.map Instance.fqdn) host).result with
    | ok _ => exact absurd hr hfail
    | error e =>
      have hp := deleteInstanceHost_loop ep pre hpre
      refine ⟨e, ((deleteInstanceHost_result_error ep).mp hr).2, ?_⟩
      rw [forM_stop (by rw [hp]) hr, hp]
      simp

/-- An endpoint whose cluster cannot remove host `h1` from it. -/
def removeHostFails : Endpoint := fun
  | .getCluster _ name => .ok ⟨name⟩
  | .getAllHosts .. => .ok [⟨"h1", "worker-1"⟩, ⟨"h2", "worker-2"⟩]
  | .removeHost _ "h1" => .error (.raised "ApiException" "host h1 is in use")
  | .removeHost .. | .deleteHost .. => .ok ()
  | _ => .error (.raised "ApiException" "unexpected call")

/-- Deleting the second worker alone, there, removes and deletes its host only. -/
theorem deleteInstances_removes_second_worker :
    keepShownames.deleteInstances removeHostFails exampleCluster
        [⟨"worker-2", "10.0.0.4", ⟨["DATANODE"], exampleCluster⟩⟩] =
      ⟨[.call (.getCluster ⟨"10.0.0.2", "admin", "admin", 6⟩ "cluster"),
        .call (.getAllHosts ⟨"10.0.0.2", "admin", "admin", 6⟩ "full"),
        .call (.removeHost ⟨"cluster"⟩ "h2"), .call (.deleteHost ⟨"10.0.0.2", "admin", "admin", 6⟩ "h2")],
        .ok ()⟩ :=
  (deleteInstances_calls removeHostFails keepShownames exampleCluster _ ⟨"cluster"⟩ _ rfl rfl).2.1
    (by
      simp only [List.mem_cons, List.not_mem_nil, or_false]
      rintro host (rfl | rfl) hl
      · exact absurd hl (by decide)
      · exact ⟨rfl, rfl⟩)

/-- Deleting both workers there, the failure on the first worker's host keeps the second's from
being removed. -/
theorem removeHost_failure_skips_later_host :
    Event.call (.removeHost ⟨"cluster"⟩ "h2") ∉ (keepShownames.deleteInstances removeHostFails
      exampleCluster [⟨"worker-1", "10.0.0.3", ⟨["DATANODE"], exampleCluster⟩⟩,
        ⟨"worker-2", "10.0.0.4", ⟨["DATANODE"], exampleCluster⟩⟩]).events := by
  decide

/-! ### The roles of an instance -/

/-- The names of the roles a run creates, in order. -/
def createdRoles : List Event → List String :=
  List.filterMap fun | .call (.createRole _ name _ _) => some name | _ => none

/-- The role names a run deploys client configuration for, in order. -/
def deployedRoles : List Event → List String :=
  List.filterMap fun | .call (.deployClientConfig _ name) => some name | _ => none

@[simp] theorem createdRoles_append (evs evs' : List Event) :
    createdRoles (evs ++ evs') = createdRoles evs ++ createdRoles evs' := List.filterMap_append ..

@[simp] theorem deployedRoles_append (evs evs' : List Event) :
    deployedRoles (evs ++ evs') = deployedRoles evs ++ deployedRoles evs' :=
  List.filterMap_append ..

@[simp] theorem deployedRoles_map_waitFor (evs : List Event) :
    deployedRoles (evs.map waitFor) = deployedRoles evs := by
  simp only [deployedRoles, List.filterMap_map]
  congr 1
  funext ev
  cases ev <;> rfl

section GetServiceByRole

variable {process : String} {cluster : Option Cluster} {inst : Option Instance}

@[simp] theorem createdRoles_getServiceByRole :
    createdRoles (self.getServiceByRole ep process cluster inst).events = [] :=
  List.filterMap_eq_nil_iff.mpr fun ev hev => by
    rcases getServiceByRole_events ep self hev with ⟨_, _, rfl⟩ | ⟨_, _, rfl⟩ <;> rfl

@[simp] theorem deployedRoles_getServiceByRole :
    deployedRoles (self.getServiceByRole ep process cluster inst).events = [] :=
  List.filterMap_eq_nil_iff.mpr fun ev hev => by
    rcases getServiceByRole_events ep self hev with ⟨_, _, rfl⟩ | ⟨_, _, rfl⟩ <;> rfl

theorem allPass_getServiceByRole :
    AllPass ep (self.getServiceByRole ep process cluster inst).events :=
  fun _ hm => by rcases getServiceByRole_events ep self hm with ⟨_, _, h⟩ | ⟨_, _, h⟩ <;> cases h

end GetServiceByRole

theorem addRole_created {inst : Instance} {process : String} {cluster : Option Cluster}
    (hp : process ≠ "CLOUDERA_MANAGER")
    (h : (self.addRole ep inst process cluster).result = .ok ()) :
    (∃ service,
      (self.getServiceByRole ep (self.convertRoleShowname process) none (some inst)).result =
        .ok service) ∧
    createdRoles (self.addRole ep inst process cluster).events =
      [self.getRoleName inst (self.convertRoleShowname process)] := by
  have hp' : process ∉ ["CLOUDERA_MANAGER"] := by simpa using hp
  simp only [addRole, hp', ite_false] at h ⊢
  cases hs :
      (self.getServiceByRole ep (self.convertRoleShowname process) none (some inst)).result with
  | error e => rw [bind_error hs] at h; cases h
  | ok service =>
    refine ⟨⟨service, rfl⟩, ?_⟩
    rw [bind_ok hs] at h ⊢
    simp only [ask, invoke_bind] at h ⊢
    cases hc : ep (.createRole service (self.getRoleName inst (self.convertRoleShowname process))
      (self.convertRoleShowname process) inst.fqdn) with
    | error e => rw [hc] at h; cases h
    | ok role =>
      simp only [createdRoles_append, createdRoles_getServiceByRole, List.nil_append]
      rfl

theorem updateProcessConfigs_of_service {inst : Instance} {process : String} {service : ApiService}
    {cmd : ApiCommand}
    (hs : (self.getServiceByRole ep (self.convertRoleShowname process) none (some inst)).result =
      .ok service)
    (hd : ep (.deployClientConfig service
      (self.getRoleName inst (self.convertRoleShowname process))) = .ok cmd) :
    self.updateProcessConfigs ep inst process =
      ⟨(self.getServiceByRole ep (self.convertRoleShowname process) none (some inst)).events ++
        [.call (.deployClientConfig service
          (self.getRoleName inst (self.convertRoleShowname process))), .yield cmd], .ok ()⟩ := by
  simp only [updateProcessConfigs, bind_ok hs, ask, invoke_bind, hd]
  simp [yieldCommand]

/-- When `configure_instance` ends normally on processes none of which is the manager's, every
process resolves to a service, and one role is created per process, in order. -/
theorem configureInstance_roles {inst : Instance} {cluster : Option Cluster}
    (processes : List String) (hcm : "CLOUDERA_MANAGER" ∉ processes)
    (h : (processes.forM fun process => self.addRole ep inst process cluster).result = .ok ()) :
    (∀ process ∈ processes, ∃ service,
      (self.getServiceByRole ep (self.convertRoleShowname process) none (some inst)).result =
        .ok service) ∧
    createdRoles (processes.forM fun process => self.addRole ep inst process cluster).events =
      processes.map fun process => self.getRoleName inst (self.convertRoleShowname process) := by
  have hall := forM_result_ok_iff.mp h
  have hp : ∀ process ∈ processes, process ≠ "CLOUDERA_MANAGER" := fun _ hm heq => hcm (heq ▸ hm)
  refine ⟨fun p hm => (addRole_created ep self (hp p hm) (hall p hm)).1, ?_⟩
  rw [(forM_ok hall).2, createdRoles, List.filterMap_flatMap, List.map_eq_flatMap]
  exact List.flatMap_congr fun p hm => (addRole_created ep self (hp p hm) (hall p hm)).2

theorem addRole_of_service {inst : Instance} {process : String} {cluster : Option Cluster}
    (hsvc : process ≠ "CLOUDERA_MANAGER" → ∃ service,
      (self.getServiceByRole ep (self.convertRoleShowname process) none (some inst)).result =
        .ok service)
    (hcreate : ∀ service name type hostId,
      ∃ role, ep (.createRole service name type hostId) = .ok role)
    (hconfig : ∀ role config, ep (.updateConfig role config) = .ok ()) :
    (self.addRole ep inst process cluster).result = .ok () ∧
    createdRoles (self.addRole ep inst process cluster).events =
      if process = "CLOUDERA_MANAGER" then [] else
        [self.getRoleName inst (self.convertRoleShowname process)] := by
  by_cases hp : process = "CLOUDERA_MANAGER"
  · subst hp
    exact ⟨rfl, rfl⟩
  · obtain ⟨service, hs⟩ := hsvc hp
    obtain ⟨role, hc⟩ := hcreate service (self.getRoleName inst (self.convertRoleShowname process))
      (self.convertRoleShowname process) inst.fqdn
    have hp' : process ∉ ["CLOUDERA_MANAGER"] := by simpa using hp
    simp only [addRole, hp', hp, ite_false, bind_ok hs, ask_bind_of_ok ep hc, createdRoles_append,
      createdRoles_getServiceByRole]
    exact ⟨hconfig _ _, rfl⟩

/-- `configure_instance`, when every process other than the manager's resolves to a service and
every role is created and configured, ends normally and creates one role per declared process other
than the manager's, in order, named after the converted process. -/
theorem configureInstance_creates_roles (inst : Instance) (cluster : Option Cluster)
    (hsvc : ∀ process ∈ inst.nodeGroup.nodeProcesses, process ≠ "CLOUDERA_MANAGER" → ∃ service,
      (self.getServiceByRole ep (self.convertRoleShowname process) none (some inst)).result =
        .ok service)
    (hcreate : ∀ service name type hostId, ∃ role, ep (.createRole service name type hostId) = .ok role)
    (hconfig : ∀ role config, ep (.updateConfig role config) = .ok ()) :
    (self.configureInstance ep inst cluster).result = .ok () ∧
    createdRoles (self.configureInstance ep inst cluster).events =
      (inst.nodeGroup.nodeProcesses.filter (· != "CLOUDERA_MANAGER")).map fun process =>
        self.getRoleName inst (self.convertRoleShowname process) := by
  unfold configureInstance
  generalize inst.nodeGroup.nodeProcesses = processes at hsvc ⊢
  induction processes with
  | nil => exact ⟨rfl, rfl⟩
  | cons p ps ih =>
    obtain ⟨hr, hc⟩ := addRole_of_service ep self (hsvc p (List.mem_cons_self p ps)) hcreate hconfig
    obtain ⟨ihr, ihc⟩ := ih fun q hq => hsvc q (List.mem_cons_of_mem p hq)
    rw [List.forM_cons', bind_ok hr]
    refine ⟨ihr, ?_⟩
    rw [createdRoles_append, hc, ihc, List.filter_cons]
    by_cases hp : p = "CLOUDERA_MANAGER" <;> simp [hp]

/-- An endpoint on which every call the plugin makes on roles succeeds. -/
def rolesEndpoint : Endpoint := fun
  | .getCluster _ name => .ok ⟨name⟩
  | .getService cluster name => .ok ⟨cluster.name, name⟩
  | .createRole _ name _ _ => .ok ⟨name⟩
  | .updateConfig .. => .ok ()
  | .deployClientConfig .. => .ok ⟨1⟩
  | .wait _ => .ok ⟨true, "Deployed", none⟩
  | _ => .error (.raised "ApiException" "unexpected call")

/-- There, `configure_instance` on a worker that also runs the manager creates the data node's role
only. -/
theorem configureInstance_skips_manager_role :
    createdRoles (keepShownames.configureInstance rolesEndpoint
      ⟨"worker-1", "10.0.0.3", ⟨["CLOUDERA_MANAGER", "DATANODE"], exampleCluster⟩⟩ none).events =
      ["DATANODE_worker-1"] :=
  (configureInstance_creates_roles rolesEndpoint keepShownames _ none
    (by
      simp only [List.mem_cons, List.not_mem_nil, or_false]
      rintro p (rfl | rfl) hp
      · exact absurd rfl hp
      · exact ⟨_, rfl⟩)
    (fun _ name _ _ => ⟨⟨name⟩, rfl⟩) fun _ _ => rfl).2

theorem updateConfigsGen_roles {inst : Instance} (processes : List String)
    (hsvc : ∀ process ∈ processes, ∃ service,
      (self.getServiceByRole ep (self.convertRoleShowname process) none (some inst)).result =
        .ok service)
    (hdeploy : ∀ service name, ∃ cmd,
      ep (.deployClientConfig service name) = .ok cmd ∧ waitError ep cmd = none) :
    (processes.forM (self.updateProcessConfigs ep inst)).result = .ok () ∧
    AllPass ep (processes.forM (self.updateProcessConfigs ep inst)).events ∧
    deployedRoles (processes.forM (self.updateProcessConfigs ep inst)).events =
      processes.map fun process => self.getRoleName inst (self.convertRoleShowname process) := by
  induction processes with
  | nil => exact ⟨rfl, fun _ h => absurd h (List.not_mem_nil _), rfl⟩
  | cons p ps ih =>
    obtain ⟨service, hs⟩ := hsvc p (List.mem_cons_self p ps)
    obtain ⟨cmd, hd, hw⟩ := hdeploy service (self.getRoleName inst (self.convertRoleShowname p))
    obtain ⟨ihr, ihp, ihd⟩ := ih fun q hq => hsvc q (List.mem_cons_of_mem p hq)
    rw [List.forM_cons', updateProcessConfigs_of_service ep self hs hd, ok_bind]
    refine ⟨ihr,
      allPass_append ep (allPass_append ep (allPass_getServiceByRole ep self) ?_) ihp, ?_⟩
    · intro c hc
      simp only [List.mem_cons, Event.yield.injEq, List.not_mem_nil, or_false] at hc
      rcases hc with hc | rfl
      · cases hc
      · exact hw
    · simp only [deployedRoles_append, deployedRoles_getServiceByRole, ihd]
      rfl

/-- `configure_instance` and `update_configs` agree on an instance that does not run the manager:
when every deployment is accepted and every command passes, `update_configs` ends normally as soon
as `configure_instance` does, and deploys client configuration for exactly the roles
`configure_instance` created, in the same order, one per declared process. -/
theorem updateConfigs_deploys_configured_roles (inst : Instance) (cluster : Option Cluster)
    (hcm : "CLOUDERA_MANAGER" ∉ inst.nodeGroup.nodeProcesses)
    (hdeploy : ∀ service name, ∃ cmd,
      ep (.deployClientConfig service name) = .ok cmd ∧ waitError ep cmd = none)
    (hconf : (self.configureInstance ep inst cluster).result = .ok ()) :
    (self.updateConfigs ep inst).result = .ok () ∧
    deployedRoles (self.updateConfigs ep inst).events =
      createdRoles (self.configureInstance ep inst cluster).events ∧
    createdRoles (self.configureInstance ep inst cluster).events =
      inst.nodeGroup.nodeProcesses.map fun process =>
        self.getRoleName inst (self.convertRoleShowname process) := by
  obtain ⟨hsvc, hcreated⟩ := configureInstance_roles ep self _ hcm hconf
  obtain ⟨hr, hpass, hdeployed⟩ := updateConfigsGen_roles ep self _ hsvc hdeploy
  have hrun : self.updateConfigs ep inst =
      ⟨(self.updateConfigsGen ep inst).events.map waitFor, .ok ()⟩ := by
    rw [updateConfigs, clouderaCmd, updateConfigsGen, clouderaCmdLoop_pass ep _ _ hpass, hr]
  rw [hrun, deployedRoles_map_waitFor]
  exact ⟨rfl, hdeployed.trans hcreated.symm, hcreated⟩

/-- There, `update_configs` on a worker deploys the roles of its data node and node manager. -/
theorem updateConfigs_deploys_worker_roles :
    deployedRoles (keepShownames.updateConfigs rolesEndpoint
      ⟨"worker-1", "10.0.0.3", ⟨["DATANODE", "NODEMANAGER"], exampleCluster⟩⟩).events =
      ["DATANODE_worker-1", "NODEMANAGER_worker-1"] :=
  let h := updateConfigs_deploys_configured_roles rolesEndpoint keepShownames
    ⟨"worker-1", "10.0.0.3", ⟨["DATANODE", "NODEMANAGER"], exampleCluster⟩⟩ none (by decide)
    (fun _ _ => ⟨⟨1⟩, rfl, rfl⟩) rfl
  h.2.1.trans h.2.2

/-- `update_configs` raises a configuration error on the first declared process whose converted
name no service runs, once the processes before it are deployed; the manager's process, which
`configure_instance` skips, is one such process. -/
theorem updateConfigs_raises_on_unsupported_process (inst : Instance) (pre post : List String)
    (process : String) (cmCluster : ApiCluster)
    (hprocs : inst.nodeGroup.nodeProcesses = pre ++ process :: post)
    (hpre : ∀ p ∈ pre, ∃ service,
      (self.getServiceByRole ep (self.convertRoleShowname p) none (some inst)).result = .ok service)
    (hdeploy : ∀ service name, ∃ cmd,
      ep (.deployClientConfig service name) = .ok cmd ∧ waitError ep cmd = none)
    (hcl : ep (.getCluster (self.getApiClient inst.nodeGroup.cluster) inst.nodeGroup.cluster.name) =
      .ok cmCluster)
    (hunsup : serviceNameOf (self.convertRoleShowname process) = none) :
    (self.updateConfigs ep inst).result = .error (.valueError
      ("Process " ++ self.convertRoleShowname process ++ " is not supported by CDH plugin")) := by
  obtain ⟨hr, hpass, -⟩ := updateConfigsGen_roles ep self pre hpre hdeploy
  have hbody : self.updateProcessConfigs ep inst process =
      ⟨[.call (.getCluster (self.getApiClient inst.nodeGroup.cluster) inst.nodeGroup.cluster.name)],
        .error (.valueError
          ("Process " ++ self.convertRoleShowname process ++ " is not supported by CDH plugin"))⟩ := by
    simp only [updateProcessConfigs, getServiceByRole, getClouderaCluster, ask_bind_of_ok ep hcl,
      hunsup]
    rfl
  have hgen : self.updateConfigsGen ep inst =
      ⟨(pre.forM (self.updateProcessConfigs ep inst)).events ++ (self.updateProcessConfigs ep inst process).events,
        .error (.valueError
          ("Process " ++ self.convertRoleShowname process ++ " is not supported by CDH plugin"))⟩ := by
    rw [updateConfigsGen, hprocs, forM_stop hr (by rw [hbody])]
  have hall : AllPass ep (self.updateConfigsGen ep inst).events := by
    rw [hgen, hbody]
    exact allPass_append ep hpass fun _ h => by simp at h
  rw [updateConfigs, clouderaCmd, clouderaCmdLoop_pass ep _ _ hall, hgen]

/-- There, `update_configs` on a worker that also declares a flume agent deploys the data node's
configuration, then raises on the flume agent. -/
theorem updateConfigs_rejects_flume_agent :
    (keepShownames.updateConfigs rolesEndpoint
      ⟨"worker-1", "10.0.0.3", ⟨["DATANODE", "FLUME_AGENT"], exampleCluster⟩⟩).result =
      .error (.valueError "Process FLUME_AGENT is not supported by CDH plugin") :=
  updateConfigs_raises_on_unsupported_process rolesEndpoint keepShownames _ ["DATANODE"] []
    "FLUME_AGENT" ⟨"cluster"⟩ rfl
    (by simp only [List.mem_singleton]; rintro p rfl; exact ⟨_, rfl⟩)
    (fun _ _ => ⟨⟨1⟩, rfl, rfl⟩) rfl rfl

/-- On the manager's own instance, `configure_instance` skips the manager's process and returns,
while `update_configs` raises on it. -/
theorem updateConfigs_fails_on_manager_instance :
    keepShownames.configureInstance rolesEndpoint (keepShownames.getManager exampleCluster) none =
      ⟨[], .ok ()⟩ ∧
    keepShownames.updateConfigs rolesEndpoint (keepShownames.getManager exampleCluster) =
      ⟨[.call (.getCluster ⟨"10.0.0.2", "admin", "admin", 6⟩ "cluster")],
        .error (.valueError "Process CLOUDERA_MANAGER is not supported by CDH plugin")⟩ :=
  ⟨rfl, rfl⟩

end Sahara.Cdh

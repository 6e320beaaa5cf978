import Mathlib.Data.List.Nodup
import Sahara.Cdh.Lifecycle

/-! The state of Cloudera Manager that the plugin's calls change: the hosts of its inventory, the
hosts of each cluster, and the roles of each service with their configuration.  The plugin reads it
through `get_all_hosts` and `get_roles_by_type`, reaches clusters, services and roles through
handles that name them, and writes it through `remove_host`, `delete_host`, `create_role`,
`update_config` and `delete_role`.  A method runs against an endpoint that may make any call raise,
whose reads the manager answers (`Manager.over`); the calls of the run that did not raise are then
applied in order (`Manager.commit`).  Answering every read from the manager as it was when the
method began is exact for the plugin: `delete_instances` lists the hosts before its first write, and
no other method reads what it writes.  The manager's own code is not in this repository: what its
commands do (start, restart, refresh, deploy, decommission) is left out, and so is the registration
of hosts by their agents. -/

namespace Sahara.Cdh

open ClouderaUtils

/-- A role of the manager: its service, name, type and host, and its configuration. -/
structure RoleRow where
  service : ApiService
  name : String
  type : String
  hostId : String
  config : Configs
  deriving DecidableEq, Repr

/-- The hosts of the manager's inventory, the pairs of a cluster's name and the id of one of its
hosts, and the roles.  Host ids are keys: no two hosts of the inventory share one. -/
@[ext] structure Manager where
  hosts : List ApiHost
  clusterHosts : List (String × String)
  roles : List RoleRow
  hosts_nodup : (hosts.map ApiHost.hostId).Nodup

/-- The calls among the events `evs` that the endpoint does not make raise, in order. -/
def answered (ep : Endpoint) (evs : List Event) : List Call :=
  evs.filterMap fun
    | .call c => if (ep c).isOk then some c else none
    | .yield _ => none

@[simp] theorem answered_append (ep : Endpoint) (evs evs' : List Event) :
    answered ep (evs ++ evs') = answered ep evs ++ answered ep evs' := List.filterMap_append ..

/-- The calls among the events `evs`, in order, whether they raised or not. -/
def calls (evs : List Event) : List Call :=
  evs.filterMap fun | .call c => some c | .yield _ => none

theorem answered_sublist_calls (ep : Endpoint) (evs : List Event) :
    (answered ep evs).Sublist (calls evs) := by
  have h : answered ep evs = (calls evs).filter fun c => (ep c).isOk := by
    rw [calls, List.filter_filterMap]
    exact List.filterMap_congr fun ev _ => by cases ev <;> simp [Option.filter, apply_ite]
  exact h ▸ List.filter_sublist _

theorem answered_flatMap {α : Type} (ep : Endpoint) (l : List α) (f : α → List Event) :
    answered ep (l.flatMap f) = l.flatMap fun a => answered ep (f a) := List.filterMap_flatMap ..

/-- The hosts the calls delete from the inventory, in order. -/
def deletedHosts : List Call → List String :=
  List.filterMap fun | .deleteHost _ hostId => some hostId | _ => none

/-- The pairs of a cluster's name and a host id that the calls remove from the cluster, in order. -/
def removedHosts : List Call → List (String × String) :=
  List.filterMap fun | .removeHost cluster hostId => some (cluster.name, hostId) | _ => none

theorem deletedHosts_append (cs cs' : List Call) :
    deletedHosts (cs ++ cs') = deletedHosts cs ++ deletedHosts cs' := List.filterMap_append ..

theorem removedHosts_append (cs cs' : List Call) :
    removedHosts (cs ++ cs') = removedHosts cs ++ removedHosts cs' := List.filterMap_append ..

/-- The calls that write the roles. -/
def Call.writesRoles : Call → Bool
  | .createRole .. | .updateConfig .. | .deleteRole .. => true
  | _ => false

namespace Manager

variable (m : Manager)

/-! ### Reads -/

/-- `service.get_roles_by_type(role_type)`: the names of the service's roles of that type, in
order. -/
def getRolesByType (service : ApiService) (roleType : String) : List ApiRole :=
  (m.roles.filter fun r => r.service == service && r.type == roleType).map fun r => ⟨r.name⟩

/-- The answer the manager gives to a read; none for a call that reads nothing of it.  A cluster,
a service or a created role is answered by the handle that names it. -/
def read : (c : Call) → Option c.Answer
  | .getCluster _ name => some ⟨name⟩
  | .getService cluster name => some ⟨cluster.name, name⟩
  | .getAllHosts .. => some m.hosts
  | .getRolesByType service roleType => some (m.getRolesByType service roleType)
  | .createRole _ name .. => some ⟨name⟩
  | _ => none

/-- The endpoint `ep` with its reads answered by the manager; a call that `ep` makes raise still
raises. -/
def over (ep : Endpoint) : Endpoint := fun c =>
  match ep c, m.read c with
  | .ok _, some a => .ok a
  | r, _ => r

variable {m}

theorem over_of_read {ep : Endpoint} {c : Call} {b : c.Answer} (hr : m.read c = some b) :
    m.over ep c = (ep c).map fun _ => b := by
  simp only [over, hr]
  cases ep c <;> rfl

theorem over_of_not_read {ep : Endpoint} {c : Call} (hr : m.read c = none) : m.over ep c = ep c := by
  simp only [over, hr]
  split <;> simp_all

theorem over_read_ok {ep : Endpoint} {c : Call} {a b : c.Answer} (h : m.over ep c = .ok a)
    (hr : m.read c = some b) : a = b ∧ (ep c).isOk := by
  rw [over_of_read hr] at h
  cases hc : ep c with
  | error e => rw [hc] at h; cases h
  | ok _ => rw [hc] at h; exact ⟨(Except.ok.inj h).symm, rfl⟩

theorem over_not_read_ok {ep : Endpoint} {c : Call} {a : c.Answer} (h : m.over ep c = .ok a)
    (hr : m.read c = none) : (ep c).isOk := by
  rw [over_of_not_read hr] at h
  rw [h]
  rfl

theorem over_isOk (ep : Endpoint) (c : Call) : (m.over ep c).isOk = (ep c).isOk := by
  simp only [over]
  split <;> simp_all [Except.isOk, Except.toBool]

variable (m)

/-! ### Writes -/

/-- `cluster.remove_host(host_id)`. -/
def removeHost (clusterName hostId : String) : Manager :=
  { m with clusterHosts := m.clusterHosts.filter fun p => p ≠ (clusterName, hostId) }

/-- `api.delete_host(host_id)`. -/
def deleteHost (hostId : String) : Manager :=
  { m with
    hosts := m.hosts.filter fun h => h.hostId ≠ hostId
    hosts_nodup := m.hosts_nodup.sublist ((List.filter_sublist _).map _) }

/-- `service.create_role(name, type, host_id)`: the new role has no configuration of its own. -/
def createRole (service : ApiService) (name type hostId : String) : Manager :=
  { m with roles := m.roles ++ [⟨service, name, type, hostId, []⟩] }

/-- The configuration `config` updated with `update`: the keys of `update` take its values, and
the others keep theirs. -/
def mergeConfig (config update : Configs) : Configs :=
  update ++ config.filter fun kv => kv.1 ∉ update.map Prod.fst

/-- `role.update_config(config)` on the role `name`. -/
def updateConfig (name : String) (config : Configs) : Manager :=
  { m with
    roles := m.roles.map fun r =>
      if r.name = name then { r with config := mergeConfig r.config config } else r }

/-- `service.delete_role(name)`. -/
def deleteRole (service : ApiService) (name : String) : Manager :=
  { m with roles := m.roles.filter fun r => ¬(r.service = service ∧ r.name = name) }

/-- The manager after a call that did not raise: the five writes change it, and no other call
does. -/
def apply : Call → Manager
  | .removeHost cluster hostId => m.removeHost cluster.name hostId
  | .deleteHost _ hostId => m.deleteHost hostId
  | .createRole service name type hostId => m.createRole service name type hostId
  | .updateConfig role config => m.updateConfig role.name config
  | .deleteRole service name => m.deleteRole service name
  | _ => m

/-- The manager after the events `evs` of a run against the endpoint `ep`: each call that `ep` does
not make raise is applied in turn. -/
def commit (ep : Endpoint) (evs : List Event) : Manager :=
  (answered ep evs).foldl apply m

@[simp] theorem commit_nil (ep : Endpoint) : m.commit ep [] = m := rfl

theorem commit_append (ep : Endpoint) (evs evs' : List Event) :
    m.commit ep (evs ++ evs') = (m.commit ep evs).commit ep evs' := by
  rw [commit, answered_append, List.foldl_append]
  rfl

theorem commit_call {ep : Endpoint} {c : Call} (h : (ep c).isOk) :
    m.commit ep [.call c] = m.apply c := by
  simp [commit, answered, h]

theorem hosts_apply (c : Call) :
    (m.apply c).hosts = m.hosts.filter fun h => h.hostId ∉ deletedHosts [c] := by
  cases c with
  | deleteHost _ hostId => simp [apply, deleteHost, deletedHosts]
  | _ => exact (List.filter_eq_self.mpr fun _ _ => rfl).symm

theorem clusterHosts_apply (c : Call) :
    (m.apply c).clusterHosts = m.clusterHosts.filter fun p => p ∉ removedHosts [c] := by
  cases c with
  | removeHost cluster hostId => simp [apply, removeHost, removedHosts]
  | _ => exact (List.filter_eq_self.mpr fun _ _ => rfl).symm

theorem roles_apply {c : Call} (h : c.writesRoles = false) : (m.apply c).roles = m.roles := by
  cases c <;> first | rfl | cases h

theorem hosts_commit (ep : Endpoint) (evs : List Event) :
    (m.commit ep evs).hosts = m.hosts.filter fun h => h.hostId ∉ deletedHosts (answered ep evs) := by
  unfold commit
  generalize answered ep evs = cs
  induction cs generalizing m with
  | nil => exact (List.filter_eq_self.mpr fun _ _ => rfl).symm
  | cons c cs ih =>
    rw [List.foldl_cons, ih, hosts_apply, List.filter_filter]
    refine List.filter_congr fun h _ => ?_
    rw [show c :: cs = [c] ++ cs from rfl, deletedHosts_append]
    simp only [List.mem_append, not_or, Bool.decide_and, Bool.and_comm]

theorem clusterHosts_commit (ep : Endpoint) (evs : List Event) :
    (m.commit ep evs).clusterHosts =
      m.clusterHosts.filter fun p => p ∉ removedHosts (answered ep evs) := by
  unfold commit
  generalize answered ep evs = cs
  induction cs generalizing m with
  | nil => exact (List.filter_eq_self.mpr fun _ _ => rfl).symm
  | cons c cs ih =>
    rw [List.foldl_cons, ih, clusterHosts_apply, List.filter_filter]
    refine List.filter_congr fun p _ => ?_
    rw [show c :: cs = [c] ++ cs from rfl, removedHosts_append]
    simp only [List.mem_append, not_or, Bool.decide_and, Bool.and_comm]

/-- A run whose calls change no manager leaves the manager as it was. -/
theorem commit_of_reads {ep : Endpoint} {evs : List Event}
    (h : ∀ c, .call c ∈ evs → ∀ n : Manager, n.apply c = n) : m.commit ep evs = m := by
  induction evs with
  | nil => rfl
  | cons ev evs ih =>
    rw [show ev :: evs = [ev] ++ evs from rfl, commit_append]
    have hev : m.commit ep [ev] = m := by
      cases ev with
      | yield _ => rfl
      | call c =>
        by_cases hc : (ep c).isOk
        · rw [commit_call _ hc, h c (List.mem_cons_self _ _)]
        · simp [commit, answered, hc]
    rw [hev, ih fun c hc => h c (List.mem_cons_of_mem ev hc)]

/-- A run none of whose calls that did not raise writes a role leaves the roles as they were. -/
theorem roles_commit {ep : Endpoint} {evs : List Event}
    (h : ∀ c ∈ answered ep evs, c.writesRoles = false) : (m.commit ep evs).roles = m.roles := by
  unfold commit
  generalize answered ep evs = cs at h
  induction cs generalizing m with
  | nil => rfl
  | cons c cs ih =>
    rw [List.foldl_cons, ih _ fun c' hc' => h c' (List.mem_cons_of_mem c hc'),
      roles_apply _ (h c (List.mem_cons_self c cs))]

theorem answered_map_call {ep : Endpoint} {cs : List Call} (h : ∀ c ∈ cs, (ep c).isOk) :
    answered ep (cs.map .call) = cs := by
  rw [answered, List.filterMap_map]
  exact (List.filterMap_congr fun c hc => by simp [h c hc]).trans (List.filterMap_some cs)

/-! ### What the methods are for -/

/-- The ids of the hosts of the inventory named like one of `names`. -/
def hostIdsNamed (names : List String) : List String :=
  (m.hosts.filter fun h => h.hostname ∈ names).map ApiHost.hostId

/-- What `delete_instances` is for: the hosts named like one of the instances leave the cluster and
the inventory. -/
def dropHosts (clusterName : String) (names : List String) : Manager :=
  { m with
    hosts := m.hosts.filter fun h => h.hostname ∉ names
    clusterHosts := m.clusterHosts.filter fun p =>
      ¬(p.1 = clusterName ∧ p.2 ∈ m.hostIdsNamed names)
    hosts_nodup := m.hosts_nodup.sublist ((List.filter_sublist _).map _) }

/-- What `configure_instances` is for: the roles `rows` added, in order. -/
def addRoles (rows : List RoleRow) : Manager := { m with roles := m.roles ++ rows }

/-- What `decommission_nodes` is for: the roles `names` of `service` deleted. -/
def deleteRoles (service : ApiService) (names : List String) : Manager :=
  { m with roles := m.roles.filter fun r => ¬(r.service = service ∧ r.name ∈ names) }

@[simp] theorem addRoles_nil : m.addRoles [] = m := by
  ext1 <;> simp [addRoles]

theorem addRoles_addRoles (rows rows' : List RoleRow) :
    (m.addRoles rows).addRoles rows' = m.addRoles (rows ++ rows') := by
  ext1 <;> simp [addRoles]

@[simp] theorem getRolesByType_addRoles (rows : List RoleRow) (service : ApiService)
    (roleType : String) :
    (m.addRoles rows).getRolesByType service roleType = m.getRolesByType service roleType ++
      (rows.filter fun r => r.service == service && r.type == roleType).map fun r => ⟨r.name⟩ := by
  simp only [getRolesByType, addRoles, List.filter_append, List.map_append]

@[simp] theorem deleteRoles_nil (service : ApiService) : m.deleteRoles service [] = m := by
  ext1 <;> simp [deleteRoles]

theorem deleteRoles_deleteRole (service : ApiService) (name : String) (names : List String) :
    (m.deleteRole service name).deleteRoles service names =
      m.deleteRoles service (name :: names) := by
  ext1
  · rfl
  · rfl
  · simp only [deleteRoles, deleteRole, List.filter_filter]
    refine List.filter_congr fun r _ => ?_
    by_cases hs : r.service = service <;> simp [hs, Bool.and_comm]

theorem updateConfig_createRole {service : ApiService} {name type hostId : String}
    (config : Configs) (h : name ∉ m.roles.map RoleRow.name) :
    (m.createRole service name type hostId).updateConfig name config =
      m.addRoles [⟨service, name, type, hostId, config⟩] := by
  ext1
  · rfl
  · rfl
  · simp only [updateConfig, createRole, addRoles, List.map_append, List.map_cons, List.map_nil,
      ite_true, mergeConfig, List.filter_nil, List.append_nil]
    congr 1
    exact (List.map_congr_left fun r hr =>
      if_neg fun (he : r.name = name) => h (he ▸ List.mem_map_of_mem RoleRow.name hr)).trans
        (List.map_id _)

end Manager

namespace ClouderaUtils

variable (self : ClouderaUtils)

/-- The role `_add_role` creates for `process` on the instance, configured as it configures it: none
for the manager's process, and none for a process that no service runs, on which it raises. -/
def plannedRole (inst : Instance) (cluster : Option Cluster) (process : String) : Option RoleRow :=
  if process ∈ ["CLOUDERA_MANAGER"] then none else
    (serviceNameOf (self.convertRoleShowname process)).map fun svc =>
      ⟨⟨inst.nodeGroup.cluster.name, svc⟩, self.getRoleName inst (self.convertRoleShowname process),
        self.convertRoleShowname process, inst.fqdn,
        self.getConfigs (self.convertRoleShowname process) cluster inst.nodeGroup⟩

/-- The roles `configure_instances` creates: those of each instance, process after process. -/
def plannedRoles (instances : List Instance) (cluster : Option Cluster) : List RoleRow :=
  instances.flatMap fun inst =>
    inst.nodeGroup.nodeProcesses.filterMap (self.plannedRole inst cluster)

end ClouderaUtils

end Sahara.Cdh

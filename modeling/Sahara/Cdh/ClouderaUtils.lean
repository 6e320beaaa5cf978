import Sahara.Cdh.Api

/-! `sahara/plugins/cdh/cloudera_utils.py`: the decorator `cloudera_cmd` and the methods of
`ClouderaUtils`, each against an endpoint `ep`.  A generator method is the run of its body, yields
included; the decorated method is `cloudera_cmd` applied to that run.  `await_agents` reads the
clock and polls the endpoint call after call, so it takes their successive answers and a fuel bound
on its `while` loop. -/

namespace Sahara.Cdh

open Run

variable (ep : Endpoint)

/-- A call to the endpoint. -/
def ask (c : Call) : Run Event c.Answer := invoke (.call c) (ep c)

/-- `yield cmd` in a generator body. -/
def yieldCommand (cmd : ApiCommand) : Run Event Unit := ⟨[.yield cmd], .ok ()⟩

/-- The test `cloudera_cmd` makes on `result = cmd.wait()`. -/
def checkResult (result : CommandResult) : Run Event Unit :=
  if !result.success then
    match result.children with
    | some children => children.forM fun c =>
        if !c.success then throw (.hadoopProvisionError c.resultMessage) else pure ()
    | none => throw (.hadoopProvisionError result.resultMessage)
  else pure ()

/-- One pass of the loop of `cloudera_cmd` on a yielded command: wait on it, then test it. -/
def waitOn (cmd : ApiCommand) : Run Event Unit := do
  let result ← ask ep (.wait cmd)
  checkResult result

/-- The loop of `cloudera_cmd` over the events of the producer: its calls happen as it is resumed,
each command it yields is waited on before it is resumed again, and its own end, a return or an
exception, ends the loop. -/
def clouderaCmdLoop : List Event → Except PyError Unit → Run Event Unit
  | [], r => ⟨[], r⟩
  | .call c :: rest, r => do invoke (.call c) (.ok ()); clouderaCmdLoop rest r
  | .yield cmd :: rest, r => do waitOn ep cmd; clouderaCmdLoop rest r

/-- `cloudera_cmd(f)`, applied to the run of the generator `f(*args, **kwargs)`. -/
def clouderaCmd (producer : Run Event Unit) : Run Event Unit :=
  clouderaCmdLoop ep producer.events producer.result

namespace ClouderaUtils

/-- `CM_DEFAULT_USERNAME`. -/
def cmDefaultUsername : String := "admin"
/-- `CM_DEFAULT_PASSWD`. -/
def cmDefaultPasswd : String := "admin"
/-- `CM_API_VERSION`. -/
def cmApiVersion : Nat := 6

def hdfsServiceName : String := "hdfs01"
def yarnServiceName : String := "yarn01"
def oozieServiceName : String := "oozie01"
def hiveServiceName : String := "hive01"
def hueServiceName : String := "hue01"
def sparkServiceName : String := "spark_on_yarn01"
def zookeeperServiceName : String := "zookeeper01"
def hbaseServiceName : String := "hbase01"

variable (self : ClouderaUtils)

/-- `get_api_client(cluster)`: a client of the manager instance's address. -/
def getApiClient (cluster : Cluster) : ApiResource :=
  ⟨(self.getManager cluster).managementIp, cmDefaultUsername, cmDefaultPasswd, cmApiVersion⟩

/-- `get_cloudera_cluster(cluster)`. -/
def getClouderaCluster (cluster : Cluster) : Run Event ApiCluster :=
  ask ep (.getCluster (self.getApiClient cluster) cluster.name)

/-- The service the chain of tests of `get_service_by_role` picks for `process`; none when every
test fails. -/
def serviceNameOf (process : String) : Option String :=
  if process ∈ ["NAMENODE", "DATANODE", "SECONDARYNAMENODE"] then some hdfsServiceName
  else if process ∈ ["RESOURCEMANAGER", "NODEMANAGER", "JOBHISTORY"] then some yarnServiceName
  else if process ∈ ["OOZIE_SERVER"] then some oozieServiceName
  else if process ∈ ["HIVESERVER2", "HIVEMETASTORE", "WEBHCAT"] then some hiveServiceName
  else if process ∈ ["HUE_SERVER"] then some hueServiceName
  else if process ∈ ["SPARK_YARN_HISTORY_SERVER"] then some sparkServiceName
  else if process ∈ ["SERVER"] then some zookeeperServiceName
  else if process ∈ ["MASTER", "REGIONSERVER"] then some hbaseServiceName
  else none

/-- `get_service_by_role(process, cluster=None, instance=None)`. -/
def getServiceByRole (process : String) (cluster : Option Cluster) (inst : Option Instance) :
    Run Event ApiService := do
  let cmCluster ← match cluster, inst with
    | some cluster, _ => self.getClouderaCluster ep cluster
    | none, some inst => self.getClouderaCluster ep inst.nodeGroup.cluster
    | none, none => throw (.valueError "'cluster' or 'instance' argument missed")
  match serviceNameOf process with
  | some name => ask ep (.getService cmCluster name)
  | none => throw (.valueError s!"Process {process} is not supported by CDH plugin")

/-- The generator of `start_instances(cluster)`. -/
def startInstancesGen (cluster : Cluster) : Run Event Unit := do
  let cmCluster ← self.getClouderaCluster ep cluster
  yieldCommand (← ask ep (.clusterStart cmCluster))

/-- `start_instances(cluster)`. -/
def startInstances (cluster : Cluster) : Run Event Unit :=
  clouderaCmd ep (self.startInstancesGen ep cluster)

/-- The body of the loop of `delete_instances`, on one host of the inventory. -/
def deleteInstanceHost (api : ApiResource) (cmCluster : ApiCluster)
    (hostsnamesToDeleted : List String) (host : ApiHost) : Run Event Unit :=
  if host.hostname ∈ hostsnamesToDeleted then do
    ask ep (.removeHost cmCluster host.hostId)
    ask ep (.deleteHost api host.hostId)
  else pure ()

/-- `delete_instances(cluster, instances)`. -/
def deleteInstances (cluster : Cluster) (instances : List Instance) : Run Event Unit := do
  let api := self.getApiClient cluster
  let cmCluster ← self.getClouderaCluster ep cluster
  let hosts ← ask ep (.getAllHosts api "full")
  let hostsnamesToDeleted := instances.map Instance.fqdn
  hosts.forM (deleteInstanceHost ep api cmCluster hostsnamesToDeleted)

/-- `decommission_nodes(cluster, process, role_names)`. -/
def decommissionNodes (cluster : Cluster) (process : String) (roleNames : List String) :
    Run Event Unit := do
  let service ← self.getServiceByRole ep process (some cluster) none
  let cmd ← ask ep (.decommission service roleNames)
  let _ ← ask ep (.wait cmd)
  roleNames.forM fun roleName => ask ep (.deleteRole service roleName)

/-- The generator of `refresh_nodes(cluster, process, service_name)`. -/
def refreshNodesGen (cluster : Cluster) (process serviceName : String) : Run Event Unit := do
  let cmCluster ← self.getClouderaCluster ep cluster
  let service ← ask ep (.getService cmCluster serviceName)
  let nds := (← ask ep (.getRolesByType service process)).map ApiRole.name
  nds.forM fun nd => do
    (← ask ep (.refresh service nd)).forM yieldCommand

/-- `refresh_nodes(cluster, process, service_name)`. -/
def refreshNodes (cluster : Cluster) (process serviceName : String) : Run Event Unit :=
  clouderaCmd ep (self.refreshNodesGen ep cluster process serviceName)

/-- The generator of `deploy_configs(cluster)`. -/
def deployConfigsGen (cluster : Cluster) : Run Event Unit := do
  let cmCluster ← self.getClouderaCluster ep cluster
  yieldCommand (← ask ep (.clusterDeployClientConfig cmCluster))

/-- `deploy_configs(cluster)`. -/
def deployConfigs (cluster : Cluster) : Run Event Unit :=
  clouderaCmd ep (self.deployConfigsGen ep cluster)

/-- The body of the loop of `update_configs`, on one declared process. -/
def updateProcessConfigs (inst : Instance) (process : String) : Run Event Unit := do
  let process := self.convertRoleShowname process
  let service ← self.getServiceByRole ep process none (some inst)
  yieldCommand (← ask ep (.deployClientConfig service (self.getRoleName inst process)))

/-- The generator of `update_configs(instance)`. -/
def updateConfigsGen (inst : Instance) : Run Event Unit :=
  inst.nodeGroup.nodeProcesses.forM (self.updateProcessConfigs ep inst)

/-- `update_configs(instance)`. -/
def updateConfigs (inst : Instance) : Run Event Unit :=
  clouderaCmd ep (self.updateConfigsGen ep inst)

/-- The generator of `restart_mgmt_service(cluster)`. -/
def restartMgmtServiceGen (cluster : Cluster) : Run Event Unit := do
  let api := self.getApiClient cluster
  let cm ← ask ep (.getClouderaManager api)
  let mgmtService ← ask ep (.cmGetService cm)
  yieldCommand (← ask ep (.restart mgmtService))

/-- `restart_mgmt_service(cluster)`. -/
def restartMgmtService (cluster : Cluster) : Run Event Unit :=
  clouderaCmd ep (self.restartMgmtServiceGen ep cluster)

/-- The generator of `start_service(service)`. -/
def startServiceGen (service : ApiService) : Run Event Unit := do
  yieldCommand (← ask ep (.serviceStart service))

/-- `start_service(service)`. -/
def startService (service : ApiService) : Run Event Unit :=
  clouderaCmd ep (startServiceGen ep service)

/-- The generator of `start_roles(service, *role_names)`. -/
def startRolesGen (service : ApiService) (roleNames : List String) : Run Event Unit := do
  (← ask ep (.startRoles service roleNames)).forM yieldCommand

/-- `start_roles(service, *role_names)`. -/
def startRoles (service : ApiService) (roleNames : List String) : Run Event Unit :=
  clouderaCmd ep (startRolesGen ep service roleNames)

/-- `create_mgmt_service(cluster)`: the four monitoring roles, on the manager's host. -/
def createMgmtService (cluster : Cluster) : Run Event Unit := do
  let api := self.getApiClient cluster
  let cm ← ask ep (.getClouderaManager api)
  let manager := self.getManager cluster
  let hostname := manager.fqdn
  let processes := ["SERVICEMONITOR", "HOSTMONITOR", "EVENTSERVER", "ALERTPUBLISHER"]
  let setupInfo : ApiServiceSetupInfo :=
    ⟨processes.map fun proc => ⟨self.getRoleName manager proc, proc, hostname⟩⟩
  ask ep (.createMgmtService cm setupInfo)
  ask ep (.hostsStartRoles cm [hostname])

/-- `_add_role(instance, process, cluster)`. -/
def addRole (inst : Instance) (process : String) (cluster : Option Cluster) :
    Run Event Unit :=
  if process ∈ ["CLOUDERA_MANAGER"] then pure () else do
    let process := self.convertRoleShowname process
    let service ← self.getServiceByRole ep process none (some inst)
    let role ← ask ep (.createRole service (self.getRoleName inst process) process
      inst.fqdn)
    ask ep (.updateConfig role (self.getConfigs process cluster inst.nodeGroup))

/-- `configure_instance(instance, cluster=None)`. -/
def configureInstance (inst : Instance) (cluster : Option Cluster) : Run Event Unit :=
  inst.nodeGroup.nodeProcesses.forM fun process => self.addRole ep inst process cluster

/-- `configure_instances(instances, cluster=None)`. -/
def configureInstances (instances : List Instance) (cluster : Option Cluster) : Run Event Unit :=
  instances.forM fun inst => self.configureInstance ep inst cluster

/-- What the clock and the endpoint answer, call after call, while `await_agents` runs:
`utcnow k` is the `k`-th reading of `timeutils.utcnow()`, the first one being `s_time`, and
`getAllHosts k` the answer to the `k`-th `api.get_all_hosts('full')`. -/
structure Polls where
  utcnow : Nat → Instant
  getAllHosts : Nat → Except PyError (List ApiHost)

/-- Pass `k` of the `while` loop of `await_agents`: read the clock and, under the timeout, poll the
hosts and sleep unless every instance is among them.  True when the loop goes on. -/
def awaitAgentsPass (polls : Polls) (api : ApiResource) (instances : List Instance)
    (sTime : Instant) (k : Nat) : Run Event Bool := do
  let now ← invoke (.call .utcnow) (.ok (polls.utcnow (k + 1)))
  if deltaSeconds sTime now < 300 then
    let hostnames := instances.map Instance.fqdn
    let hostnamesToManager :=
      (← invoke (.call (.getAllHosts api "full")) (polls.getAllHosts k)).map ApiHost.hostname
    let isOk := hostnames.all fun hostname => decide (hostname ∈ hostnamesToManager)
    if !isOk then do
      invoke (.call (.sleep 5)) (.ok ())
      pure true
    else pure false
  else throw (.hadoopProvisionError "Cloudera agents failed to connect to Cloudera Manager")

/-- The `while` loop of `await_agents` from pass `k` on, with at most `fuel` passes; none when the
fuel runs out first. -/
def awaitAgentsLoop (polls : Polls) (api : ApiResource) (instances : List Instance)
    (sTime : Instant) : Nat → Nat → Option (Run Event Unit)
  | 0, _ => none
  | fuel + 1, k =>
    let pass := awaitAgentsPass polls api instances sTime k
    match pass.result with
    | .ok true => (awaitAgentsLoop polls api instances sTime fuel (k + 1)).map fun rest => pass *> rest
    | _ => some (pass *> pure ())

/-- `await_agents(instances)`, with at most `fuel` passes of its loop. -/
def awaitAgents (polls : Polls) (instances : List Instance) (fuel : Nat) :
    Option (Run Event Unit) :=
  match instances.head? with
  | none => some (throw (.indexError "list index out of range"))
  | some first =>
    let api := self.getApiClient first.nodeGroup.cluster
    let sTime : Run Event Instant := invoke (.call .utcnow) (.ok (polls.utcnow 0))
    (awaitAgentsLoop polls api instances (polls.utcnow 0) fuel 0).map fun loop => sTime *> loop

end ClouderaUtils

end Sahara.Cdh

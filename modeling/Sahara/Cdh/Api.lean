import Sahara.Resource

/-! The Cloudera Manager endpoint as the CDH plugin reaches it through `cm_api`: the handles it
returns, the remote calls the plugin makes, and what each call answers.  The endpoint is a function
from a call to its answer or to the exception it raises; a generator of the plugin also yields the
commands it submits, so the events of a run are calls and yields. -/

namespace Sahara.Cdh

/-- `api_client.ApiResource(server_host, username=..., password=..., version=...)`. -/
structure ApiResource where
  serverHost : String
  username : String
  password : String
  version : Nat
  deriving DecidableEq, Repr

/-- The handle `api.get_cluster(name)` returns. -/
structure ApiCluster where
  name : String
  deriving DecidableEq, Repr

/-- The handle of a service: the cluster it belongs to, and its name. -/
structure ApiService where
  cluster : String
  name : String
  deriving DecidableEq, Repr

/-- The handle `api.get_cloudera_manager()` returns. -/
structure ClouderaManager where
  resource : ApiResource
  deriving DecidableEq, Repr

/-- A host as `get_all_hosts(view='full')` lists it. -/
structure ApiHost where
  hostId : String
  hostname : String
  deriving DecidableEq, Repr

/-- A role handle. -/
structure ApiRole where
  name : String
  deriving DecidableEq, Repr

/-- The handle of a submitted command. -/
structure ApiCommand where
  id : Nat
  deriving DecidableEq, Repr

/-- A child of a finished command, of which the plugin reads the flag and the message. -/
structure ChildCommand where
  success : Bool
  resultMessage : String
  deriving DecidableEq, Repr

/-- What `cmd.wait()` returns: the finished command, with its children when it has a list of
them (`children is not None`). -/
structure CommandResult where
  success : Bool
  resultMessage : String
  children : Option (List ChildCommand)
  deriving DecidableEq, Repr

/-- One role of `ApiServiceSetupInfo.add_role_info(name, type, host_id)`. -/
structure ApiRoleSetupInfo where
  name : String
  type : String
  hostId : String
  deriving DecidableEq, Repr

/-- `services.ApiServiceSetupInfo()` with the roles added to it, in order. -/
structure ApiServiceSetupInfo where
  roles : List ApiRoleSetupInfo
  deriving DecidableEq, Repr

/-- A role configuration, as `_get_configs` returns it. -/
abbrev Configs := List (String × String)

/-- The remote calls of the plugin, each with its receiver and arguments; `utcnow` and `sleep` are
the clock and the pause of `await_agents`. -/
inductive Call where
  | getCluster (api : ApiResource) (name : String)
  | clusterStart (cluster : ApiCluster)
  | getAllHosts (api : ApiResource) (view : String)
  | removeHost (cluster : ApiCluster) (hostId : String)
  | deleteHost (api : ApiResource) (hostId : String)
  | getService (cluster : ApiCluster) (name : String)
  | decommission (service : ApiService) (roleNames : List String)
  | wait (cmd : ApiCommand)
  | deleteRole (service : ApiService) (name : String)
  | getRolesByType (service : ApiService) (roleType : String)
  | refresh (service : ApiService) (roleName : String)
  | clusterDeployClientConfig (cluster : ApiCluster)
  | deployClientConfig (service : ApiService) (roleName : String)
  | getClouderaManager (api : ApiResource)
  | cmGetService (cm : ClouderaManager)
  | restart (service : ApiService)
  | serviceStart (service : ApiService)
  | startRoles (service : ApiService) (roleNames : List String)
  | createMgmtService (cm : ClouderaManager) (setupInfo : ApiServiceSetupInfo)
  | hostsStartRoles (cm : ClouderaManager) (hostnames : List String)
  | createRole (service : ApiService) (name type hostId : String)
  | updateConfig (role : ApiRole) (config : Configs)
  | utcnow
  | sleep (seconds : Nat)
  deriving DecidableEq, Repr

/-- What a call returns when it does not raise. -/
def Call.Answer : Call → Type
  | .getCluster .. => ApiCluster
  | .clusterStart .. => ApiCommand
  | .getAllHosts .. => List ApiHost
  | .getService .. => ApiService
  | .decommission .. => ApiCommand
  | .wait .. => CommandResult
  | .getRolesByType .. => List ApiRole
  | .refresh .. => List ApiCommand
  | .clusterDeployClientConfig .. => ApiCommand
  | .deployClientConfig .. => ApiCommand
  | .getClouderaManager .. => ClouderaManager
  | .cmGetService .. => ApiService
  | .restart .. => ApiCommand
  | .serviceStart .. => ApiCommand
  | .startRoles .. => List ApiCommand
  | .createRole .. => ApiRole
  | .utcnow => Instant
  | _ => Unit

/-- The Cloudera Manager endpoint: the answer of every call, or what it raises. -/
abbrev Endpoint := (c : Call) → Except PyError c.Answer

/-- An event of a run of the plugin: a remote call, or a command a generator yields. -/
inductive Event where
  | call (c : Call)
  | yield (cmd : ApiCommand)
  deriving DecidableEq, Repr

/-- `self.pu`, the utilities of the CDH plugin version in use, and the `_get_configs` its
`ClouderaUtils` subclass defines. -/
structure ClouderaUtils where
  getManager : Cluster → Instance
  convertRoleShowname : String → String
  getRoleName : Instance → String → String
  getConfigs : String → Option Cluster → NodeGroup → Configs

end Sahara.Cdh

import Sahara.Python

/-! The records of the conductor that the plugin and the periodic tasks read: clusters, node groups,
instances and job executions, each with the fields the code reads. -/

namespace Sahara

/-- A cluster record.  `updatedAt` is `timeutils.normalize_time(timeutils.parse_isotime(...))` of
`updated_at`, the instant the ISO string names. -/
structure Cluster where
  id : String
  name : String
  status : String
  isTransient : Bool
  updatedAt : Instant
  deriving DecidableEq, Repr

/-- A node group: the processes its instances run, and its cluster. -/
structure NodeGroup where
  nodeProcesses : List String
  cluster : Cluster
  deriving DecidableEq, Repr

/-- An instance: `fqdn` is what `instance.fqdn()` returns. -/
structure Instance where
  fqdn : String
  managementIp : String
  nodeGroup : NodeGroup
  deriving DecidableEq, Repr

/-- The `info` of a job execution, of which the code reads `info['status']`. -/
structure JobInfo where
  status : String
  deriving DecidableEq, Repr

/-- A job execution record. -/
structure JobExecution where
  info : JobInfo
  deriving DecidableEq, Repr

end Sahara

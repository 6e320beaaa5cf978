import Sahara.Python
import Sahara.Resource
import Sahara.Cdh.Api
import Sahara.Cdh.ClouderaUtils
import Sahara.Cdh.CommandRunner
import Sahara.Cdh.Lifecycle
import Sahara.Cdh.AwaitAgents
import Sahara.Cdh.Manager
import Sahara.Cdh.Scaling
import Sahara.Cdh.Schedule
import Sahara.Cdh.RoundTrip
import Sahara.Service.Periodic
import Sahara.Service.Reconciliation
import Sahara.Service.Store
import Sahara.Service.Schedule
import Sahara.Service.Convergence

import Clustertest.Fmt
import Clustertest.BasicCluster
import Clustertest.Docker.Host
import Clustertest.Docker.Cluster
import Clustertest.Docker.Daemon
import Clustertest.Docker.Spec
import Clustertest.Docker.Invariant
import Clustertest.Docker.Contract
import Clustertest.Docker.Depends
import Clustertest.Docker.Frame
import Clustertest.Docker.Names
import Clustertest.Docker.Fresh
import Clustertest.Docker.Held
import Clustertest.Docker.Fleet

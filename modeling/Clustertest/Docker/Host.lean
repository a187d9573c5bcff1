import Clustertest.Fmt

/-!
# The docker cluster's data, and the host it runs on

`cluster/docker/cluster.go` keeps a `Cluster` (the run's certificates, the base image, a random
container-name prefix and the nodes created so far) and creates each node as a Docker container
running the node agent.

Everything `NewCluster` and `NewNodes` ask of the outside world goes through a `Host`: the OS
(`os.Getwd`, `files.FindUp`, an ephemeral TCP port, `math/rand`), the Docker daemon (pull, create,
start) and the node agents (`agent.NewClient`, `WaitForServer`). A host is a record of functions
over an abstract world `σ`; each call may succeed or fail, and may change the world. Every theorem
quantifies over the host and its world, so it holds whatever the daemon, the network and the agents
do at any call: a host can realise any sequence of outcomes by keeping it in `σ`.

`Cluster.DockerClient` is the host itself, so it is not a field here; nor is the `node`'s
`dockerClient`, which is always the cluster's.
-/

namespace Clustertest.Docker

/-- A certificate and its private key, in PEM, as `agent.Certs` holds them. -/
structure CertKey where
  certPEMBytes : List UInt8
  keyPEMBytes : List UInt8
  deriving DecidableEq, Repr

/-- `agent.Certs`: the run's CA and the leaf the node agents serve with. -/
structure Certs where
  ca : CertKey
  server : CertKey
  deriving DecidableEq, Repr

/-- An `agent.Client`, by the endpoint and certificates it was built for. -/
structure AgentClient where
  certs : Certs
  host : String
  port : Int
  deriving DecidableEq, Repr

/-- A docker `node`, with the fields `NewNodes` sets. -/
structure Node where
  id : Nat
  containerName : String
  containerID : String
  hostPort : Int
  env : List (String × String)
  agentClient : AgentClient
  deriving DecidableEq, Repr

/-- The docker `Cluster`. -/
structure Cluster where
  cert : Certs
  baseImage : String
  containerPrefix : String
  nodes : List Node
  imagePulled : Bool
  deriving DecidableEq, Repr

/-! ## What `ContainerCreate` is given -/

/-- A `nat.PortBinding`. -/
structure PortBinding where
  hostIP : String
  hostPort : String
  deriving DecidableEq, Repr

/-- The fields of `container.Config` that `NewNodes` sets. -/
structure ContainerConfig where
  image : String
  entrypoint : List String
  exposedPorts : List String
  deriving DecidableEq, Repr

/-- The fields of `container.HostConfig` that `NewNodes` sets. -/
structure HostConfig where
  binds : List String
  portBindings : List (String × List PortBinding)
  deriving DecidableEq, Repr

/-! ## The host -/

/-- The outside world of the docker cluster, one field per call the code makes. -/
structure Host (σ : Type) where
  /-- `client.NewClientWithOpts(client.FromEnv)`. -/
  newClientWithOpts : σ → Except Error Unit × σ
  /-- `agent.GenerateCert()`. -/
  generateCert : σ → Except Error Certs × σ
  /-- `rand.Intn(n)`. -/
  intn : Nat → σ → Nat × σ
  /-- `rand.Intn(n)` is below `n`. -/
  intn_lt : ∀ n w, 0 < n → (intn n w).1 < n
  /-- `os.Getwd()`. -/
  getwd : σ → Except Error String × σ
  /-- `files.FindUp(name, dir)`: the path of `name` in `dir` or above it, `""` if none. -/
  findUp : String → String → σ → String
  /-- `DockerClient.ImagePull(ctx, image, ...)`. -/
  imagePull : String → σ → Except Error Unit × σ
  /-- `io.Copy(io.Discard, out)` on the pull's response. -/
  readPullResponse : σ → Except Error Unit × σ
  /-- `net.GetEphemeralTCPPort()`. -/
  getEphemeralTCPPort : σ → Except Error Int × σ
  /-- `DockerClient.ContainerCreate(ctx, config, hostConfig, nil, nil, name)`: the new ID. -/
  containerCreate : ContainerConfig → HostConfig → String → σ → Except Error String × σ
  /-- `DockerClient.ContainerStart(ctx, containerID, ...)`. -/
  containerStart : String → σ → Except Error Unit × σ
  /-- `agent.NewClient(certs, host, port)`. -/
  newClient : Certs → String → Int → σ → Except Error AgentClient × σ
  /-- `agentClient.WaitForServer(ctx)`. -/
  waitForServer : AgentClient → σ → Option Error × σ

end Clustertest.Docker

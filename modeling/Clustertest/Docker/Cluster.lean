import Clustertest.Docker.Host

/-!
# `NewCluster` and `NewNodes`, as the code computes them

The functions of `cluster/docker/cluster.go`, one definition each, with the host calls made in
the code's order and every early `return` kept. A method on `*Cluster` takes the cluster and
returns the cluster it leaves behind; a function that calls the host takes the world and returns
the world after its calls.

`NewNodes` is cut into the body of its provisioning loop (`Cluster.provisionNode`: port, create,
start, agent client), the loop itself (`newNodesLoop`, one iteration per recursive call) and the
readiness loop (`waitForServers`).
-/

namespace Clustertest.Docker

variable {σ : Type}

/-- `chars`, the alphabet of container prefixes (it has no `d`). -/
def chars : List Char := "abcefghijklmnopqrstuvwxyz0123456789".toList

/-- `randString(n)`: `n` characters of `chars`, drawn by `rand.Intn` in order. -/
def randString (H : Host σ) : Nat → σ → String × σ
  | 0, w => ("", w)
  | n + 1, w =>
    let r := H.intn chars.length w
    let (s, w) := randString H n r.2
    (⟨chars.get ⟨r.1, H.intn_lt _ _ (by decide)⟩ :: s.data⟩, w)

/-- `NewCluster(baseImage)`: a Docker client, the run's certificates and a random prefix. The
options it accepts are never applied, so they are left out. -/
def newCluster (H : Host σ) (baseImage : String) (w : σ) : Except Error Cluster × σ :=
  match H.newClientWithOpts w with
  | (.error err, w) => (.error (err.wrap "building Docker client"), w)
  | (.ok (), w) =>
  match H.generateCert w with
  | (.error err, w) => (.error (err.wrap "generating TLS cert"), w)
  | (.ok cert, w) =>
  let (containerPrefix, w) := randString H 6 w
  (.ok { cert, baseImage, containerPrefix, nodes := [], imagePulled := false }, w)

/-- `c.ensureImagePulled(ctx)`: pull the base image once. On success, the cluster after it. -/
def Cluster.ensureImagePulled (H : Host σ) (c : Cluster) (w : σ) : Except Error Cluster × σ :=
  if c.imagePulled then (.ok c, w) else
  match H.imagePull c.baseImage w with
  | (.error err, w) => (.error err, w)
  | (.ok (), w) =>
  match H.readPullResponse w with
  | (.error err, w) => (.error (err.wrap "reading Docker pull response"), w)
  | (.ok (), w) => (.ok { c with imagePulled := true }, w)

/-- `fmt.Sprintf("clustertest-%s-%d", c.ContainerPrefix, id)`. -/
def containerName (containerPrefix : String) (id : Nat) : String :=
  "clustertest-" ++ containerPrefix ++ "-" ++ toString id

/-- The `container.Config` of a node: the agent as entrypoint, given the run's PEMs. -/
def Cluster.containerConfig (c : Cluster) : ContainerConfig where
  image := c.baseImage
  entrypoint := ["/nodeagent",
    "--ca-cert-pem", encodeToString c.cert.ca.certPEMBytes,
    "--cert-pem", encodeToString c.cert.server.certPEMBytes,
    "--key-pem", encodeToString c.cert.server.keyPEMBytes,
    "--on-heartbeat-failure", "exit",
    "--listen-addr", "0.0.0.0:8080"]
  exposedPorts := ["8080"]

/-- The `container.HostConfig` of a node: the agent binary mounted, its port on `hostPort`. -/
def hostConfig (nodeAgentBin : String) (hostPort : Int) : HostConfig where
  binds := [nodeAgentBin ++ ":/nodeagent"]
  portBindings := [("8080", [{ hostIP := "0.0.0.0", hostPort := toString hostPort }])]

/-- The body of the loop of `NewNodes` for node `id`, up to its two appends: a port, the
container named after `id`, created and started, and a client for its agent. -/
def Cluster.provisionNode (H : Host σ) (c : Cluster) (nodeAgentBin : String) (id : Nat)
    (w : σ) : Except Error Node × σ :=
  let containerName := containerName c.containerPrefix id
  match H.getEphemeralTCPPort w with
  | (.error err, w) => (.error (err.wrap "acquiring ephemeral port"), w)
  | (.ok hostPort, w) =>
  match H.containerCreate c.containerConfig (hostConfig nodeAgentBin hostPort) containerName w with
  | (.error err, w) => (.error (err.wrap "creating Docker container"), w)
  | (.ok containerID, w) =>
  match H.containerStart containerID w with
  | (.error err, w) => (.error (err.wrap ("starting container " ++ quote containerID)), w)
  | (.ok (), w) =>
  match H.newClient c.cert "127.0.0.1" hostPort w with
  | (.error err, w) => (.error (err.wrap "building nodeagent client"), w)
  | (.ok agentClient, w) =>
  (.ok { id, containerName, containerID, hostPort, env := [], agentClient }, w)

/-- The loop `for i := 0; i < n; i++` of `NewNodes` from iteration `i`, with `k` iterations
left: node `startID + i` is appended to `newNodes` and to `c.Nodes`, and the first failure
returns. -/
def newNodesLoop (H : Host σ) (nodeAgentBin : String) (startID : Nat) :
    (k i : Nat) → Cluster → List Node → σ → (Except Error (List Node) × Cluster) × σ
  | 0, _, c, newNodes, w => ((.ok newNodes, c), w)
  | k + 1, i, c, newNodes, w =>
    match c.provisionNode H nodeAgentBin (startID + i) w with
    | (.error err, w) => ((.error err, c), w)
    | (.ok node, w) =>
      newNodesLoop H nodeAgentBin startID k (i + 1) { c with nodes := c.nodes ++ [node] }
        (newNodes ++ [node]) w

/-- The readiness loop of `NewNodes`: `WaitForServer` on each new node, its result dropped. -/
def waitForServers (H : Host σ) : List Node → σ → σ
  | [], w => w
  | node :: rest, w => waitForServers H rest (H.waitForServer node.agentClient w).2

/-- What `c.NewNodes(ctx, n)` leaves: its two results, the cluster `c` points to after it,
and the world. -/
structure NewNodesResult (σ : Type) where
  nodes : List Node
  err : Option Error
  cluster : Cluster
  world : σ

/-- `c.NewNodes(ctx, n)`. The loop runs `n.toNat` times: not at all when `n ≤ 0`. -/
def Cluster.newNodes (H : Host σ) (c : Cluster) (n : Int) (w : σ) : NewNodesResult σ :=
  match H.getwd w with
  | (.error err, w) => ⟨[], some (err.wrap "getting wd"), c, w⟩
  | (.ok wd, w) =>
  let nodeAgentBin := H.findUp "nodeagent" wd w
  if nodeAgentBin = "" then ⟨[], some (.new "unable to find nodeagent bin"), c, w⟩ else
  match c.ensureImagePulled H w with
  | (.error err, w) => ⟨[], some (err.wrap "pulling image"), c, w⟩
  | (.ok c, w) =>
  match newNodesLoop H nodeAgentBin c.nodes.length n.toNat 0 c [] w with
  | ((.error err, c), w) => ⟨[], some err, c, w⟩
  | ((.ok newNodes, c), w) => ⟨newNodes, none, c, waitForServers H newNodes w⟩

/-- `c.Cleanup(ctx)`: it does nothing and returns `nil`. -/
def Cluster.cleanup (_c : Cluster) : Option Error := none

end Clustertest.Docker

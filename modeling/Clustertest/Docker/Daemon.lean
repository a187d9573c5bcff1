import Clustertest.Docker.Cluster

/-!
# An in-memory host, for concrete runs

A host whose Docker daemon keeps the names of the containers it has created and, as Docker does,
refuses a second container of a name it already holds. Ports are handed out in turn from 40000 and
container IDs are numbered. `Faults` says which calls fail: the listed `GetEphemeralTCPPort` and
`ContainerStart` calls (counted from 0 over the whole run), and every `WaitForServer` when the
agents are unreachable. Everything else succeeds.

The witnesses and counterexamples of the development run `NewCluster` and `NewNodes` on it.
-/

namespace Clustertest.Docker

/-- Which calls of the in-memory host fail. -/
structure Faults where
  /-- The `GetEphemeralTCPPort` calls that fail, counted from 0. -/
  portFails : List Nat := []
  /-- The `ContainerStart` calls that fail, counted from 0. -/
  startFails : List Nat := []
  /-- No agent ever answers `WaitForServer`. -/
  agentsUnreachable : Bool := false

/-- The world of the in-memory host. -/
structure Daemon where
  /-- The names of the containers the daemon holds. -/
  containers : List String := []
  /-- `GetEphemeralTCPPort` calls so far. -/
  ports : Nat := 0
  /-- `ContainerStart` calls so far. -/
  starts : Nat := 0
  deriving DecidableEq, Repr

/-- The certificates `GenerateCert` returns on the in-memory host. -/
def testCerts : Certs := ⟨⟨[1], [2]⟩, ⟨[3], [4]⟩⟩

/-- The in-memory host with faults `f`. -/
def Daemon.host (f : Faults) : Host Daemon where
  newClientWithOpts d := (.ok (), d)
  generateCert d := (.ok testCerts, d)
  intn _ d := (0, d)
  intn_lt _ _ h := h
  getwd d := (.ok "/home/test/clustertest", d)
  findUp name dir _ := dir ++ "/" ++ name
  imagePull _ d := (.ok (), d)
  readPullResponse d := (.ok (), d)
  getEphemeralTCPPort d :=
    (if d.ports ∈ f.portFails then .error (.new "no free port") else .ok (40000 + d.ports),
      { d with ports := d.ports + 1 })
  containerCreate _ _ name d :=
    if name ∈ d.containers then
      (.error (.new ("Conflict. The container name " ++ quote ("/" ++ name) ++ " is already in use")), d)
    else (.ok ("c" ++ toString d.containers.length), { d with containers := d.containers ++ [name] })
  containerStart _ d :=
    (if d.starts ∈ f.startFails then .error (.new "cannot start container") else .ok (),
      { d with starts := d.starts + 1 })
  newClient certs host port d := (.ok ⟨certs, host, port⟩, d)
  waitForServer _ d :=
    (if f.agentsUnreachable then some (.new "context deadline exceeded") else none, d)

/-- The cluster `NewCluster("ubuntu")` returns on the in-memory host. -/
def testCluster : Cluster :=
  { cert := testCerts, baseImage := "ubuntu", containerPrefix := "aaaaaa", nodes := [],
    imagePulled := false }

theorem newCluster_host (f : Faults) :
    newCluster (Daemon.host f) "ubuntu" {} = (.ok testCluster, {}) := rfl

end Clustertest.Docker

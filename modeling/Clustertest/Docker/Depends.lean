import Clustertest.Docker.Invariant

/-!
# What a call of `NewNodes` depends on

Which host calls a call of `NewNodes` makes, and so which answers can change what it does. The
body of the provisioning loop makes four: `GetEphemeralTCPPort`, `ContainerCreate`,
`ContainerStart` and `agent.NewClient`. Two hosts that answer those alike run the loop alike
(`newNodesLoop_congr`). Two consequences:

* the readiness loop drops what `WaitForServer` returns: nothing the call returns, nor the
  cluster it leaves, depends on it, and a node whose agent never answers is still returned as
  provisioned;
* `ensureImagePulled` pulls once per cluster: a pulled cluster stays pulled along any run, and
  no run from it depends on what `ImagePull`, or reading its response, would answer.
-/

namespace Clustertest.Docker

variable {σ : Type}

/-- `H'` answers the four calls of the loop body as `H` does. -/
structure Host.ProvisionsAs (H' H : Host σ) : Prop where
  getEphemeralTCPPort : H'.getEphemeralTCPPort = H.getEphemeralTCPPort
  containerCreate : H'.containerCreate = H.containerCreate
  containerStart : H'.containerStart = H.containerStart
  newClient : H'.newClient = H.newClient

variable {H H' : Host σ}

theorem Cluster.provisionNode_congr (h : H'.ProvisionsAs H) (c : Cluster) (bin : String)
    (id : Nat) (w : σ) : c.provisionNode H' bin id w = c.provisionNode H bin id w := by
  simp only [Cluster.provisionNode, h.getEphemeralTCPPort, h.containerCreate, h.containerStart,
    h.newClient]

/-- Hosts that answer the loop body alike run the provisioning loop alike. -/
theorem newNodesLoop_congr (h : H'.ProvisionsAs H) (bin : String) (startID : Nat) :
    ∀ k i c newNodes w,
      newNodesLoop H' bin startID k i c newNodes w = newNodesLoop H bin startID k i c newNodes w
  | 0, _, _, _, _ => rfl
  | k + 1, i, c, newNodes, w => by
    simp only [newNodesLoop, Cluster.provisionNode_congr h, newNodesLoop_congr h bin startID k]

theorem waitForServers_congr (h : H'.waitForServer = H.waitForServer) :
    ∀ nodes w, waitForServers H' nodes w = waitForServers H nodes w
  | [], _ => rfl
  | node :: nodes, w => by simp only [waitForServers, h, waitForServers_congr h nodes]

/-! ## Readiness -/

/-- **What `WaitForServer` answers changes nothing `NewNodes` returns, nor the cluster it
leaves.** -/
theorem newNodes_ignores_waitForServer (H : Host σ) (wait : AgentClient → σ → Option Error × σ)
    (c : Cluster) (n : Int) (w : σ) :
    (c.newNodes { H with waitForServer := wait } n w).nodes = (c.newNodes H n w).nodes ∧
    (c.newNodes { H with waitForServer := wait } n w).err = (c.newNodes H n w).err ∧
    (c.newNodes { H with waitForServer := wait } n w).cluster = (c.newNodes H n w).cluster := by
  have hprov : Host.ProvisionsAs { H with waitForServer := wait } H := ⟨rfl, rfl, rfl, rfl⟩
  have hpull : Cluster.ensureImagePulled { H with waitForServer := wait } =
      Cluster.ensureImagePulled H := rfl
  simp only [Cluster.newNodes, newNodesLoop_congr hprov, hpull]
  repeat' split
  all_goals exact ⟨rfl, rfl, rfl⟩

/-- With agents that never answer, `NewNodes` still reports its node as provisioned. -/
theorem newNodes_ok_with_unreachable_agent :
    (testCluster.newNodes (Daemon.host { agentsUnreachable := true }) 1 {}).err = none ∧
    (testCluster.newNodes (Daemon.host { agentsUnreachable := true }) 1 {}).nodes.length = 1 ∧
    ∀ node ∈ (testCluster.newNodes (Daemon.host { agentsUnreachable := true }) 1 {}).nodes,
      ∀ d, ((Daemon.host { agentsUnreachable := true }).waitForServer node.agentClient d).1 =
        some (.new "context deadline exceeded") :=
  ⟨by decide, by decide, fun _ _ _ => rfl⟩

/-! ## The image, pulled once -/

/-- On a pulled cluster, `ensureImagePulled` makes no call. -/
theorem Cluster.ensureImagePulled_of_pulled (H : Host σ) {c : Cluster} (h : c.imagePulled = true)
    (w : σ) : c.ensureImagePulled H w = (.ok c, w) := by
  simp [Cluster.ensureImagePulled, h]

/-- A pulled cluster stays pulled. -/
theorem newNodes_imagePulled (H : Host σ) {c : Cluster} (h : c.imagePulled = true) (n : Int)
    (w : σ) : (c.newNodes H n w).cluster.imagePulled = true := by
  simp only [Cluster.newNodes, Cluster.ensureImagePulled_of_pulled H h]
  split
  · exact h
  next wd w₁ _ =>
  split
  · exact h
  obtain ⟨added, hc, -⟩ :=
    newNodesLoop_spec H (H.findUp "nodeagent" wd w₁) c.nodes.length n.toNat 0 c [] w₁
  split <;> rename_i e <;> rw [e] at hc <;> exact (congrArg Cluster.imagePulled hc).trans h

/-- On a pulled cluster, a host that answers every call `NewNodes` makes besides the pull as `H`
does gives the same call of `NewNodes`. -/
theorem newNodes_congr_of_pulled (H' H : Host σ) {c : Cluster} (h : c.imagePulled = true)
    (hwd : H'.getwd = H.getwd) (hfind : H'.findUp = H.findUp) (hprov : H'.ProvisionsAs H)
    (hwait : H'.waitForServer = H.waitForServer) (n : Int) (w : σ) :
    c.newNodes H' n w = c.newNodes H n w := by
  simp only [Cluster.newNodes, hwd, hfind, Cluster.ensureImagePulled_of_pulled _ h,
    newNodesLoop_congr hprov, waitForServers_congr hwait]

/-- **Run lemma**: a pulled cluster stays pulled along any run. -/
theorem run_imagePulled (H : Host σ) :
    ∀ (calls : List Call) (s : Cluster × σ), s.1.imagePulled = true →
      (run H calls s).1.imagePulled = true
  | [], _, h => h
  | .cleanup :: calls, s, h => run_imagePulled H calls s h
  | .newNodes n :: calls, (_, w), h => run_imagePulled H calls _ (newNodes_imagePulled H h n w)

/-- From a pulled cluster, a host that answers every call but the pull as `H` does runs as `H`
does. -/
theorem run_congr_of_pulled (H : Host σ) (imagePull : String → σ → Except Error Unit × σ)
    (readPullResponse : σ → Except Error Unit × σ) :
    ∀ (calls : List Call) (s : Cluster × σ), s.1.imagePulled = true →
      run { H with imagePull := imagePull, readPullResponse := readPullResponse } calls s =
        run H calls s
  | [], _, _ => rfl
  | .cleanup :: calls, s, h => run_congr_of_pulled H imagePull readPullResponse calls s h
  | .newNodes n :: calls, (c, w), h => by
    simp only [run, step, newNodes_congr_of_pulled
      { H with imagePull := imagePull, readPullResponse := readPullResponse } H h rfl rfl
      ⟨rfl, rfl, rfl, rfl⟩ rfl]
    exact run_congr_of_pulled H imagePull readPullResponse calls _ (newNodes_imagePulled H h n w)

/-- **Once a cluster's image is pulled, it stays pulled, and no later call pulls it again**: no
run from a pulled cluster depends on what `ImagePull`, or reading its response, would answer. -/
theorem run_ignores_imagePull (H : Host σ) (imagePull : String → σ → Except Error Unit × σ)
    (readPullResponse : σ → Except Error Unit × σ) :
    ∀ (calls : List Call) (s : Cluster × σ), s.1.imagePulled = true →
      (run H calls s).1.imagePulled = true ∧
      run { H with imagePull := imagePull, readPullResponse := readPullResponse } calls s =
        run H calls s := fun calls s h =>
  ⟨run_imagePulled H calls s h, run_congr_of_pulled H imagePull readPullResponse calls s h⟩

theorem run_ignores_imagePull_after_first_call :
    (step (Daemon.host {}) (.newNodes 1) (testCluster, {})).1.imagePulled = true ∧
    (run (Daemon.host {}) [.newNodes 2]
      (step (Daemon.host {}) (.newNodes 1) (testCluster, {}))).1.imagePulled = true ∧
    run { Daemon.host {} with
        imagePull := fun _ d => (.error (.new "pull access denied"), d),
        readPullResponse := fun d => (.error (.new "unexpected EOF"), d) }
      [.newNodes 2] (step (Daemon.host {}) (.newNodes 1) (testCluster, {})) =
      run (Daemon.host {}) [.newNodes 2] (step (Daemon.host {}) (.newNodes 1) (testCluster, {})) :=
  ⟨by decide, run_ignores_imagePull _ _ _ _ _ (by decide)⟩

end Clustertest.Docker

import Clustertest.Docker.Frame

/-!
# Container names across calls

Every call of `NewNodes` numbers its nodes on from the length of `c.Nodes`, so the names it asks
`ContainerCreate` for are fresh only if every container created so far is recorded there. A node
whose container was created but which then failed (`ContainerStart`, `agent.NewClient`) is never
appended: its container stays behind under its name, and the next call asks for the same name
again.

To watch the names asked for, `Host.logCreates` keeps a log of the `ContainerCreate` calls beside
the world: the name of each, and whether it succeeded.

On a daemon that refuses a name it holds, as Docker does and the in-memory host does, such a
stranded container blocks the cluster for good: every later call of `NewNodes` that asks for a
node fails at that name, and `c.Nodes` never grows again (`stranded_cluster_never_grows`).
-/

namespace Clustertest.Docker

variable {σ : Type}

/-- A host call run on the world, the log left as it is. -/
def keepLog {α : Type} (op : σ → α × σ) (s : σ × List (String × Bool)) :
    α × (σ × List (String × Bool)) :=
  ((op s.1).1, ((op s.1).2, s.2))

/-- `H`, with a log of its `ContainerCreate` calls: the name asked for, and whether the call
succeeded. -/
def Host.logCreates (H : Host σ) : Host (σ × List (String × Bool)) where
  newClientWithOpts := keepLog H.newClientWithOpts
  generateCert := keepLog H.generateCert
  intn n := keepLog (H.intn n)
  intn_lt n s h := H.intn_lt n s.1 h
  getwd := keepLog H.getwd
  findUp name dir s := H.findUp name dir s.1
  imagePull image := keepLog (H.imagePull image)
  readPullResponse := keepLog H.readPullResponse
  getEphemeralTCPPort := keepLog H.getEphemeralTCPPort
  containerCreate config hostConfig name s :=
    let (r, w) := H.containerCreate config hostConfig name s.1
    (r, (w, s.2 ++ [(name, r.toBool)]))
  containerStart containerID := keepLog (H.containerStart containerID)
  newClient certs host port := keepLog (H.newClient certs host port)
  waitForServer agentClient := keepLog (H.waitForServer agentClient)

section LogCreates

variable (H : Host σ) (s : σ × List (String × Bool))

@[simp] theorem logCreates_getwd : H.logCreates.getwd s = ((H.getwd s.1).1, ((H.getwd s.1).2, s.2)) :=
  rfl

@[simp] theorem logCreates_findUp (name dir : String) :
    H.logCreates.findUp name dir s = H.findUp name dir s.1 := rfl

@[simp] theorem logCreates_imagePull (image : String) :
    H.logCreates.imagePull image s =
      ((H.imagePull image s.1).1, ((H.imagePull image s.1).2, s.2)) := rfl

@[simp] theorem logCreates_readPullResponse :
    H.logCreates.readPullResponse s =
      ((H.readPullResponse s.1).1, ((H.readPullResponse s.1).2, s.2)) := rfl

@[simp] theorem logCreates_getEphemeralTCPPort :
    H.logCreates.getEphemeralTCPPort s =
      ((H.getEphemeralTCPPort s.1).1, ((H.getEphemeralTCPPort s.1).2, s.2)) := rfl

@[simp] theorem logCreates_containerCreate (config : ContainerConfig) (hostConfig : HostConfig)
    (name : String) :
    H.logCreates.containerCreate config hostConfig name s =
      ((H.containerCreate config hostConfig name s.1).1,
        ((H.containerCreate config hostConfig name s.1).2,
          s.2 ++ [(name, (H.containerCreate config hostConfig name s.1).1.toBool)])) := rfl

@[simp] theorem logCreates_containerStart (containerID : String) :
    H.logCreates.containerStart containerID s =
      ((H.containerStart containerID s.1).1, ((H.containerStart containerID s.1).2, s.2)) := rfl

@[simp] theorem logCreates_newClient (certs : Certs) (host : String) (port : Int) :
    H.logCreates.newClient certs host port s =
      ((H.newClient certs host port s.1).1, ((H.newClient certs host port s.1).2, s.2)) := rfl

@[simp] theorem logCreates_waitForServer (agentClient : AgentClient) :
    H.logCreates.waitForServer agentClient s =
      ((H.waitForServer agentClient s.1).1, ((H.waitForServer agentClient s.1).2, s.2)) := rfl

end LogCreates

/-- No `ContainerCreate` call of `log` asks for a name that an earlier successful one created. -/
def FreshCreates (log : List (String × Bool)) : Prop :=
  ∀ name ok, ¬ List.Sublist [(name, true), (name, ok)] log

/-- Two calls `NewNodes(ctx, 1)` on a fresh cluster, on the in-memory host whose first
`ContainerStart` fails, with the `ContainerCreate` calls logged. -/
def strandingRun : Cluster × Daemon × List (String × Bool) :=
  run (Daemon.host { startFails := [0] }).logCreates [.newNodes 1, .newNodes 1]
    (testCluster, ({}, []))

/-- The first call's container is created but fails to start, so its node is not recorded; the
second call asks for the same name, and the daemon refuses it. -/
theorem newNodes_reuses_stranded_name :
    strandingRun.1.nodes = [] ∧
    strandingRun.2.2 = [("clustertest-aaaaaa-0", true), ("clustertest-aaaaaa-0", false)] ∧
    ¬ FreshCreates strandingRun.2.2 := by
  refine ⟨by decide, by decide, fun h => ?_⟩
  exact h "clustertest-aaaaaa-0" false (by decide)

/-- A log of calls whose names are pairwise distinct never reuses a name. -/
theorem FreshCreates.of_nodup {log : List (String × Bool)} (h : (log.map Prod.fst).Nodup) :
    FreshCreates log := fun name ok hs =>
  List.nodup_iff_sublist.mp h name (by simpa using hs.map Prod.fst)

/-- Two logs that never reuse a name, where the second asks for no name the first created,
make a log that never reuses a name. -/
theorem FreshCreates.append {log log' : List (String × Bool)} (h : FreshCreates log)
    (h' : FreshCreates log') (hsep : ∀ name, (name, true) ∈ log → name ∉ log'.map Prod.fst) :
    FreshCreates (log ++ log') := by
  intro name ok hs
  obtain ⟨l₁, l₂, he, hs₁, hs₂⟩ := List.sublist_append_iff.mp hs
  rcases l₁ with _ | ⟨x, _ | ⟨y, l₁⟩⟩
  · simp only [List.nil_append] at he
    exact h' name ok (he ▸ hs₂)
  · simp only [List.singleton_append, List.cons.injEq] at he
    obtain ⟨rfl, rfl⟩ := he
    exact hsep name (List.singleton_sublist.mp hs₁)
      (List.mem_map.mpr ⟨(name, ok), List.singleton_sublist.mp hs₂, rfl⟩)
  · simp only [List.cons_append, List.cons.injEq, List.nil_eq, List.append_eq_nil] at he
    obtain ⟨rfl, rfl, rfl, rfl⟩ := he
    exact h name ok hs₁

/-! ## A stranded container blocks the cluster -/

/-- The in-memory daemon never removes a container. -/
theorem Daemon.host_preserves (f : Faults) (name : String) :
    (Daemon.host f).Preserves (name ∈ ·.containers) where
  getwd _ h := h
  imagePull _ _ h := h
  readPullResponse _ h := h
  getEphemeralTCPPort _ h := h
  containerCreate _ _ _ _ h := by
    simp only [Daemon.host]
    split <;> simp [h]
  containerStart _ _ h := h
  newClient _ _ _ _ h := h
  waitForServer _ _ h := h

/-- Provisioning a node whose container name the daemon holds fails. -/
theorem provisionNode_held (f : Faults) {c : Cluster} (bin : String) {id : Nat} {d : Daemon}
    (h : containerName c.containerPrefix id ∈ d.containers) :
    ∃ e d', c.provisionNode (Daemon.host f) bin id d = (.error e, d') := by
  by_cases hp : d.ports ∈ f.portFails <;> simp [Cluster.provisionNode, Daemon.host, hp, h]

/-- The loop stops at its first iteration when the daemon holds the first name. -/
theorem newNodesLoop_held (f : Faults) (bin : String) (startID : Nat) (c : Cluster)
    (newNodes : List Node) {d : Daemon}
    (h : containerName c.containerPrefix startID ∈ d.containers) :
    ∀ k, (newNodesLoop (Daemon.host f) bin startID k 0 c newNodes d).1.2 = c ∧
      (0 < k → ∃ e, (newNodesLoop (Daemon.host f) bin startID k 0 c newNodes d).1.1 = .error e)
  | 0 => ⟨rfl, by omega⟩
  | k + 1 => by
    obtain ⟨e, d', he⟩ := provisionNode_held f bin h
    simp [newNodesLoop, he]

/-- **Step lemma**: on a cluster whose next container name the daemon holds, `NewNodes`
records no node, and fails whenever it asks for one. -/
theorem newNodes_stranded (f : Faults) {c : Cluster} {d : Daemon}
    (h : containerName c.containerPrefix c.nodes.length ∈ d.containers) (n : Int) :
    (c.newNodes (Daemon.host f) n d).cluster.nodes = c.nodes ∧
    (c.newNodes (Daemon.host f) n d).cluster.containerPrefix = c.containerPrefix ∧
    (0 < n → (c.newNodes (Daemon.host f) n d).err ≠ none) := by
  have hP := Daemon.host_preserves f (containerName c.containerPrefix c.nodes.length)
  simp only [Cluster.newNodes]
  split
  · exact ⟨rfl, rfl, fun _ => by simp⟩
  next wd d₁ e₁ =>
  have h₁ := hP.getwd d h
  rw [e₁] at h₁
  split
  · exact ⟨rfl, rfl, fun _ => by simp⟩
  split
  · exact ⟨rfl, rfl, fun _ => by simp⟩
  next c' d₂ e₂ =>
  have h₂ := hP.ensureImagePulled c h₁
  rw [e₂] at h₂
  obtain rfl := ensureImagePulled_ok e₂
  obtain ⟨hc, herr⟩ := newNodesLoop_held f ((Daemon.host f).findUp "nodeagent" wd d₁)
    c.nodes.length { c with imagePulled := true } [] h₂ n.toNat
  split <;> rename_i e₃ <;> rw [e₃] at hc herr <;> simp only at hc herr <;> subst hc
  · exact ⟨rfl, rfl, fun _ => by simp⟩
  · refine ⟨rfl, rfl, fun hn => ?_⟩
    obtain ⟨e, he⟩ := herr (by omega)
    cases he

/-- **Run lemma**: the next name stays held, and `c.Nodes` unchanged, along any run. -/
theorem run_stranded (f : Faults) (c : Cluster) :
    ∀ calls (s : Cluster × Daemon), s.1.nodes = c.nodes → s.1.containerPrefix = c.containerPrefix →
      containerName c.containerPrefix c.nodes.length ∈ s.2.containers →
      (run (Daemon.host f) calls s).1.nodes = c.nodes ∧
      (run (Daemon.host f) calls s).1.containerPrefix = c.containerPrefix ∧
      containerName c.containerPrefix c.nodes.length ∈ (run (Daemon.host f) calls s).2.containers
  | [], _, hn, hp, hh => ⟨hn, hp, hh⟩
  | .cleanup :: calls, s, hn, hp, hh => run_stranded f c calls s hn hp hh
  | .newNodes n :: calls, (c', d), hn, hp, hh => by
    obtain ⟨hn', hp', -⟩ := newNodes_stranded f (hn ▸ hp ▸ hh) n
    exact run_stranded f c calls _ (hn' ▸ hn) (hp' ▸ hp)
      ((Daemon.host_preserves f _).newNodes c' n hh)

/-- **Once the container of the next node exists without its node, the cluster never grows
again**: on a daemon that refuses names it holds, whatever else fails, no later call records a
node, and every later call of `NewNodes` that asks for nodes fails. -/
theorem stranded_cluster_never_grows (f : Faults) (c : Cluster) (d : Daemon)
    (h : containerName c.containerPrefix c.nodes.length ∈ d.containers) (calls : List Call)
    (n : Int) (hn : 0 < n) :
    (run (Daemon.host f) calls (c, d)).1.nodes = c.nodes ∧
    ((run (Daemon.host f) calls (c, d)).1.newNodes (Daemon.host f) n
      (run (Daemon.host f) calls (c, d)).2).err ≠ none := by
  obtain ⟨hnodes, hprefix, hheld⟩ := run_stranded f c calls (c, d) rfl rfl h
  exact ⟨hnodes, (newNodes_stranded f (hnodes ▸ hprefix ▸ hheld) n).2.2 hn⟩

theorem stranded_cluster_never_grows_after_three :
    (run (Daemon.host {}) [.newNodes 3] (testCluster, { containers := ["clustertest-aaaaaa-0"] })).1.nodes =
      testCluster.nodes ∧
    ((run (Daemon.host {}) [.newNodes 3] (testCluster, { containers := ["clustertest-aaaaaa-0"] })).1.newNodes
      (Daemon.host {}) 1
      (run (Daemon.host {}) [.newNodes 3] (testCluster, { containers := ["clustertest-aaaaaa-0"] })).2).err ≠
      none :=
  stranded_cluster_never_grows {} testCluster { containers := ["clustertest-aaaaaa-0"] } (by decide)
    [.newNodes 3] 1 (by decide)

end Clustertest.Docker

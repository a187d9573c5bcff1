import Clustertest.Docker.Names

/-!
# Names stay fresh when nothing fails after `ContainerCreate`

The reuse in `newNodes_reuses_stranded_name` has one cause only: a container created whose node
is then not recorded, because `ContainerStart` or `agent.NewClient` failed after it. On a host
where those two calls never fail (`Host.StartsReliably`), every name that `ContainerCreate` has
created is the name of a recorded node (`CreatesRecorded`), so each later call, numbering on from
the length of `c.Nodes`, asks only for fresh names. Along any run from `NewCluster`, whatever else
fails, no `ContainerCreate` call then asks for a name already created
(`creates_fresh_of_startsReliably`).
-/

namespace Clustertest.Docker

variable {σ : Type}

/-- A host on which nothing after `ContainerCreate` fails: starting a container and building
its agent client always succeed. -/
structure Host.StartsReliably (H : Host σ) : Prop where
  containerStart : ∀ containerID w, (H.containerStart containerID w).1 = .ok ()
  newClient : ∀ certs host port w, ∃ agentClient, (H.newClient certs host port w).1 = .ok agentClient

variable {H : Host σ}

/-! ## The log of one call -/

/-- On a reliable host, the loop body logs its create as successful exactly when it returns a
node. -/
theorem provisionNode_log (hH : H.StartsReliably) (c : Cluster) (bin : String) (id : Nat) (w : σ)
    (log : List (String × Bool)) :
    match c.provisionNode H.logCreates bin id (w, log) with
    | (.ok _, s) => s.2 = log ++ [(containerName c.containerPrefix id, true)]
    | (.error _, s) => s.2 = log ∨ s.2 = log ++ [(containerName c.containerPrefix id, false)] := by
  simp only [Cluster.provisionNode, logCreates_getEphemeralTCPPort, logCreates_containerCreate,
    logCreates_containerStart, logCreates_newClient]
  rcases H.getEphemeralTCPPort w with ⟨_ | port, w₁⟩
  · simp
  rcases hc : H.containerCreate c.containerConfig (hostConfig bin port)
      (containerName c.containerPrefix id) w₁ with ⟨_ | containerID, w₂⟩ <;> simp only [hc]
  · simp [Except.toBool]
  have hs := hH.containerStart containerID w₂
  rcases hs' : H.containerStart containerID w₂ with ⟨_ | _, w₃⟩ <;> simp only [hs'] at hs ⊢
  · cases hs
  obtain ⟨agentClient, ha⟩ := hH.newClient c.cert "127.0.0.1" port w₃
  rcases ha' : H.newClient c.cert "127.0.0.1" port w₃ with ⟨_ | _, w₄⟩ <;> simp only [ha'] at ha ⊢
  · cases ha
  · simp [Except.toBool]

/-- On a reliable host, the loop logs one successful create per node it appends, then at most
one failed create, for the next ID. -/
theorem newNodesLoop_log (hH : H.StartsReliably) (bin : String) (startID : Nat) :
    ∀ k i c newNodes w log, ∃ added tail,
      (newNodesLoop H.logCreates bin startID k i c newNodes (w, log)).1.2 =
        { c with nodes := c.nodes ++ added } ∧
      (newNodesLoop H.logCreates bin startID k i c newNodes (w, log)).2.2 =
        log ++ added.map (fun node => (node.containerName, true)) ++ tail ∧
      (tail = [] ∨ tail = [(containerName c.containerPrefix (startID + i + added.length), false)])
  | 0, i, c, newNodes, w, log => ⟨[], [], by simp [newNodesLoop]⟩
  | k + 1, i, c, newNodes, w, log => by
    have hp := provisionNode_log hH c bin (startID + i) w log
    rcases e : c.provisionNode H.logCreates bin (startID + i) (w, log)
      with ⟨_ | node, ⟨w', log'⟩⟩ <;> rw [e] at hp <;> simp only [newNodesLoop, e]
    · rcases hp with rfl | rfl
      · exact ⟨[], [], by simp⟩
      · exact ⟨[], [(containerName c.containerPrefix (startID + i), false)], by simp, by simp,
          .inr (by simp)⟩
    · have hp : log' = log ++ [(containerName c.containerPrefix (startID + i), true)] := hp
      obtain ⟨added, tail, hc, hlog, htail⟩ := newNodesLoop_log hH bin startID k (i + 1)
        { c with nodes := c.nodes ++ [node] } (newNodes ++ [node]) w' log'
      refine ⟨node :: added, tail, by simpa using hc, ?_, ?_⟩
      · rw [hlog, hp]
        simp [(provisionNode_ok e).2]
      · rcases htail with rfl | rfl
        · exact .inl rfl
        · exact .inr (by simp [Nat.add_assoc, Nat.add_comm 1])

theorem ensureImagePulled_logCreates (c : Cluster) (s : σ × List (String × Bool)) :
    c.ensureImagePulled H.logCreates s =
      ((c.ensureImagePulled H s.1).1, ((c.ensureImagePulled H s.1).2, s.2)) := by
  simp only [Cluster.ensureImagePulled, logCreates_imagePull, logCreates_readPullResponse]
  split
  · rfl
  rcases hi : H.imagePull c.baseImage s.1 with ⟨_ | _, w₁⟩ <;> simp only [hi]
  rcases hr : H.readPullResponse w₁ with ⟨_ | _, w₂⟩ <;> simp only [hr]

theorem waitForServers_logCreates :
    ∀ nodes (s : σ × List (String × Bool)),
      waitForServers H.logCreates nodes s = (waitForServers H nodes s.1, s.2)
  | [], _ => rfl
  | node :: nodes, s => by
    simp only [waitForServers, logCreates_waitForServer]
    exact waitForServers_logCreates nodes _

/-- **The log of one call of `NewNodes`** on a reliable host: one successful create per node it
appends, then at most one failed create, for the next ID. -/
theorem newNodes_log (hH : H.StartsReliably) (c : Cluster) (n : Int) (w : σ)
    (log : List (String × Bool)) :
    ∃ added tail,
      (c.newNodes H.logCreates n (w, log)).cluster.nodes = c.nodes ++ added ∧
      (c.newNodes H.logCreates n (w, log)).world.2 =
        log ++ added.map (fun node => (node.containerName, true)) ++ tail ∧
      (tail = [] ∨ tail = [(containerName c.containerPrefix (c.nodes.length + added.length), false)]) := by
  simp only [Cluster.newNodes, logCreates_getwd, logCreates_findUp, ensureImagePulled_logCreates]
  rcases H.getwd w with ⟨_ | wd, w₁⟩
  · exact ⟨[], [], by simp⟩
  dsimp only
  split
  · exact ⟨[], [], by simp⟩
  rcases hp : c.ensureImagePulled H w₁ with ⟨_ | c', w₂⟩ <;> simp only [hp]
  · exact ⟨[], [], by simp⟩
  obtain rfl := ensureImagePulled_ok hp
  obtain ⟨added, tail, hc, hlog, htail⟩ := newNodesLoop_log hH (H.findUp "nodeagent" wd w₁)
    c.nodes.length n.toNat 0 { c with imagePulled := true } [] w₂ log
  rcases e : newNodesLoop H.logCreates (H.findUp "nodeagent" wd w₁) c.nodes.length n.toNat 0
    { c with imagePulled := true } [] (w₂, log) with ⟨⟨_ | newNodes, c''⟩, ⟨w₃, log₃⟩⟩ <;>
    rw [e] at hc hlog <;> simp only at hc hlog <;> subst hc hlog <;>
    simp only [waitForServers_logCreates] <;>
    exact ⟨added, tail, rfl, rfl, by simpa using htail⟩

/-! ## Along a run -/

/-- What a run on a reliable host keeps: the recorded nodes are numbered and named by position,
every name created is the name of a recorded node, and no create has asked for a name created
before it. -/
structure CreatesRecorded (s : Cluster × σ × List (String × Bool)) : Prop where
  wellFormed : s.1.NodesWellFormed
  recorded : ∀ name, (name, true) ∈ s.2.2 → name ∈ s.1.nodes.map Node.containerName
  fresh : FreshCreates s.2.2

/-- The names one call of `NewNodes` logs are those of `L, L+1, ...` in order, for `L` the old
length of `c.Nodes`. -/
theorem newNodes_log_names {c c' : Cluster} {added : List Node} (happ : Appends c c' added)
    {tail : List (String × Bool)}
    (htail : tail = [] ∨
      tail = [(containerName c.containerPrefix (c.nodes.length + added.length), false)]) :
    ∃ m, (added.map (fun node => (node.containerName, true)) ++ tail).map Prod.fst =
      (List.range' c.nodes.length m).map (containerName c.containerPrefix) := by
  have hnames : added.map Node.containerName =
      (List.range' c.nodes.length added.length).map (containerName c.containerPrefix) := by
    rw [map_containerName_of_names happ.names, happ.ids]
  rcases htail with rfl | rfl
  · exact ⟨added.length, by simpa [Function.comp_def] using hnames⟩
  · refine ⟨added.length + 1, ?_⟩
    simp only [List.map_append, List.map_map, List.range'_1_concat]
    simpa [Function.comp_def] using hnames

/-- **Step lemma**: on a reliable host, every call keeps `CreatesRecorded`. -/
theorem CreatesRecorded.step (hH : H.StartsReliably) {s : Cluster × σ × List (String × Bool)}
    (hs : CreatesRecorded s) (call : Call) : CreatesRecorded (step H.logCreates call s) := by
  cases call with
  | cleanup => exact hs
  | newNodes n =>
  obtain ⟨c, w, log⟩ := s
  obtain ⟨added, tail, hnodes, hlog, htail⟩ := newNodes_log hH c n w log
  obtain ⟨added', happ, -⟩ := newNodes_spec H.logCreates c n (w, log)
  obtain rfl : added' = added := by
    obtain ⟨⟨_, hc⟩, -, -⟩ := happ
    simpa [hc] using hnodes
  obtain ⟨m, hm⟩ := newNodes_log_names happ htail
  have hold := hs.wellFormed.map_containerName
  refine ⟨hs.wellFormed.appends happ, fun name h => ?_, ?_⟩
  · simp only [Docker.step, hlog, List.mem_append, List.mem_map, Prod.mk.injEq] at h
    simp only [Docker.step, hnodes, List.map_append, List.mem_append]
    rcases h with (h | ⟨node, hnode, rfl, -⟩) | h
    · exact .inl (hs.recorded name h)
    · exact .inr (List.mem_map_of_mem _ hnode)
    · rcases htail with rfl | rfl <;> simp at h
  · simp only [Docker.step, hlog, List.append_assoc]
    refine hs.fresh.append (.of_nodup ?_) fun name h hmem => ?_
    · rw [hm]
      exact (List.nodup_range' _ _).map (containerName_injective _)
    · have hrec := hs.recorded name h
      rw [hold, List.mem_map] at hrec
      rw [hm, List.mem_map] at hmem
      obtain ⟨j, hj, rfl⟩ := hrec
      obtain ⟨j', hj', he⟩ := hmem
      have := containerName_injective _ he
      simp only [List.mem_range, List.mem_range'_1] at hj hj'
      omega

/-- **Run lemma.** -/
theorem CreatesRecorded.run (hH : H.StartsReliably) :
    ∀ calls {s : Cluster × σ × List (String × Bool)}, CreatesRecorded s →
      CreatesRecorded (run H.logCreates calls s)
  | [], _, hs => hs
  | call :: calls, _, hs => CreatesRecorded.run hH calls (hs.step hH call)

/-- **On a host where `ContainerStart` and `agent.NewClient` never fail, no `ContainerCreate`
call of any run from `NewCluster` asks for a name already created, and every name created is
the name of a recorded node**, whatever else fails. -/
theorem creates_fresh_of_startsReliably (H : Host σ) (hH : H.StartsReliably) (baseImage : String)
    (w w' : σ) (c : Cluster) (hc : newCluster H baseImage w = (.ok c, w')) (calls : List Call) :
    FreshCreates (run H.logCreates calls (c, (w', []))).2.2 ∧
    ∀ name, (name, true) ∈ (run H.logCreates calls (c, (w', []))).2.2 →
      name ∈ (run H.logCreates calls (c, (w', []))).1.nodes.map Node.containerName := by
  have h₀ : CreatesRecorded (c, (w', ([] : List (String × Bool)))) :=
    ⟨.of_nil (newCluster_ok hc).1, by simp, fun _ _ h => by simp at h⟩
  have h := CreatesRecorded.run hH calls h₀
  exact ⟨h.fresh, h.recorded⟩

/-- The in-memory host without faults starts every container it creates. -/
theorem Daemon.host_startsReliably : (Daemon.host {}).StartsReliably :=
  ⟨fun _ _ => rfl, fun _ _ _ _ => ⟨_, rfl⟩⟩

theorem creates_fresh_of_startsReliably_three_calls :
    (Daemon.host {}).StartsReliably ∧ newCluster (Daemon.host {}) "ubuntu" {} = (.ok testCluster, {}) ∧
    FreshCreates (run (Daemon.host {}).logCreates [.newNodes 2, .cleanup, .newNodes 1]
      (testCluster, ({}, []))).2.2 ∧
    ∀ name, (name, true) ∈ (run (Daemon.host {}).logCreates [.newNodes 2, .cleanup, .newNodes 1]
      (testCluster, ({}, []))).2.2 →
      name ∈ (run (Daemon.host {}).logCreates [.newNodes 2, .cleanup, .newNodes 1]
        (testCluster, ({}, []))).1.nodes.map Node.containerName :=
  ⟨Daemon.host_startsReliably, newCluster_host {},
    creates_fresh_of_startsReliably _ Daemon.host_startsReliably "ubuntu" {} {} testCluster
      (newCluster_host {}) _⟩

end Clustertest.Docker

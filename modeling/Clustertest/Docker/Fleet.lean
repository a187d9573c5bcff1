import Clustertest.Docker.Held

/-!
# Several clusters on one daemon

Go tests that run in parallel each build their own docker cluster, and all of them create their
containers on the one Docker daemon. Nothing in `cluster.go` coordinates them: what keeps their
container names apart is only the random prefix that `NewCluster` draws.

A fleet (`Fleet`) is a family of clusters `j : ι` sharing one host and its world; a run is any
interleaving of their calls, on a daemon that keeps its names (`Host.KeepsNames`). The model
interleaves whole calls: each `NewNodes` or `Cleanup` runs to its end before the next call
starts, whereas parallel Go tests may also interleave the host calls inside one `NewNodes`. One call of
`NewNodes` drops no name and adds only names of the calling cluster, numbered from the old length
of its `c.Nodes` up to the new one (`Host.KeepsNames.newNodes`). Hence, when the prefixes are
distinct and of one length, every interleaving keeps `Fleet.Isolated` (`fleet_isolated`): every
recorded node's container stays on the daemon, and the daemon never holds a name of a cluster
beyond its next one, so no cluster ever asks for a name that another cluster created.
-/

namespace Clustertest.Docker

variable {σ : Type}

/-! ## Names of different clusters -/

/-- Container names over prefixes of one length determine the prefix and the ID. -/
theorem containerName_inj {p p' : String} {i i' : Nat} (hlen : p.length = p'.length)
    (h : containerName p i = containerName p' i') : p = p' ∧ i = i' := by
  simp only [containerName, String.ext_iff, String.data_append, List.append_assoc,
    List.append_cancel_left_eq] at h
  obtain ⟨hp, hrest⟩ := List.append_inj h hlen
  exact ⟨String.ext hp, repr_injective (String.ext (List.append_cancel_left hrest))⟩

/-! ## A fleet of clusters -/

/-- Clusters `j : ι` of one test process, on one host and its world. -/
structure Fleet (ι σ : Type) where
  clusters : ι → Cluster
  world : σ

namespace Fleet

variable {ι : Type} [DecidableEq ι]

/-- Cluster `j` makes `call`, from its first host call to its return; the others wait. -/
def step (H : Host σ) (f : Fleet ι σ) : ι × Call → Fleet ι σ
  | (j, call) =>
    let s := Docker.step H call (f.clusters j, f.world)
    ⟨Function.update f.clusters j s.1, s.2⟩

/-- An interleaving of the clusters' calls. -/
def run (H : Host σ) : Fleet ι σ → List (ι × Call) → Fleet ι σ
  | f, [] => f
  | f, call :: calls => (f.step H call).run H calls

/-- The clusters' prefixes have one length and are pairwise distinct, as `NewCluster`'s six
random characters are drawn to be. -/
def DistinctPrefixes (f : Fleet ι σ) : Prop :=
  ∀ j j', (f.clusters j).containerPrefix.length = (f.clusters j').containerPrefix.length ∧
    ((f.clusters j).containerPrefix = (f.clusters j').containerPrefix → j = j')

/-- What the clusters of a fleet keep on the daemon: every recorded node's container is held,
and the daemon holds no name of a cluster beyond its next one. -/
structure Isolated (held : σ → String → Prop) (f : Fleet ι σ) : Prop where
  recorded : ∀ j, ∀ node ∈ (f.clusters j).nodes, held f.world node.containerName
  bounded : ∀ j i, held f.world (containerName (f.clusters j).containerPrefix i) →
    i ≤ (f.clusters j).nodes.length

/-- No call changes a cluster's prefix. -/
theorem step_containerPrefix (H : Host σ) (f : Fleet ι σ) (call : ι × Call) (j : ι) :
    ((f.step H call).clusters j).containerPrefix = (f.clusters j).containerPrefix := by
  obtain ⟨j', call⟩ := call
  by_cases hj : j = j'
  · subst hj
    cases call with
    | newNodes n =>
      obtain ⟨_, ⟨⟨_, hc⟩, -, -⟩, -⟩ := newNodes_spec H (f.clusters j) n f.world
      simp [step, Docker.step, hc]
    | cleanup => simp [step, Docker.step]
  · simp [step, hj]

theorem DistinctPrefixes.step {H : Host σ} {f : Fleet ι σ} (h : f.DistinctPrefixes)
    (call : ι × Call) : (f.step H call).DistinctPrefixes := by
  intro j j'
  simpa only [step_containerPrefix] using h j j'

variable {H : Host σ} {held : σ → String → Prop}

/-- **Step lemma**: with distinct prefixes, every call keeps the fleet isolated. -/
theorem Isolated.step (hH : H.KeepsNames held) {f : Fleet ι σ} (hd : f.DistinctPrefixes)
    (hf : f.Isolated held) (call : ι × Call) : (f.step H call).Isolated held := by
  obtain ⟨j, call | _⟩ := call
  swap
  · simpa [Fleet.step, Docker.step] using hf
  obtain ⟨added, hnodes, hgrow, hheld, -⟩ := hH.newNodes (f.clusters j) call f.world
  have hpfx := step_containerPrefix H f (j, .newNodes call)
  constructor
  · intro j' node hnode
    by_cases hj : j' = j
    · subst hj
      simp only [Fleet.step, Docker.step, Function.update_same, hnodes, List.mem_append] at hnode
      rcases hnode with hnode | hnode
      · exact hgrow.keep _ (hf.recorded j' node hnode)
      · exact hheld node hnode
    · simp only [Fleet.step, Function.update_noteq hj] at hnode
      exact hgrow.keep _ (hf.recorded j' node hnode)
  · intro j' i hi
    rw [hpfx j'] at hi
    rcases hgrow.only _ hi with hi | ⟨m, hm, he⟩
    · refine (hf.bounded j' i hi).trans ?_
      by_cases hj : j' = j
      · subst hj
        simp [Fleet.step, Docker.step, hnodes]
      · simp [Fleet.step, Function.update_noteq hj]
    · obtain ⟨hp, rfl⟩ := containerName_inj ((hd j' j).1) he
      obtain rfl := (hd j' j).2 hp
      simp only [Fleet.step, Docker.step, Function.update_same, hnodes, List.length_append]
      omega

/-- **Run lemma.** -/
theorem Isolated.run (hH : H.KeepsNames held) :
    ∀ (calls : List (ι × Call)) {f : Fleet ι σ}, f.DistinctPrefixes → f.Isolated held →
      (f.run H calls).Isolated held
  | [], _, _, hf => hf
  | call :: calls, _, hd, hf => Isolated.run hH calls (hd.step call) (hf.step hH hd call)

end Fleet

/-- **Clusters with distinct prefixes share a daemon without touching each other's names**:
along any interleaving of their calls, whatever fails, every recorded node's container stays on
the daemon, and the daemon holds no name of a cluster beyond its next one. -/
theorem fleet_isolated {ι : Type} [DecidableEq ι] (H : Host σ) (held : σ → String → Prop)
    (hH : H.KeepsNames held) (f : Fleet ι σ) (hnodes : ∀ j, (f.clusters j).nodes = [])
    (hpfxes : f.DistinctPrefixes)
    (hfree : ∀ j i, ¬ held f.world (containerName (f.clusters j).containerPrefix i))
    (calls : List (ι × Call)) : (f.run H calls).Isolated held :=
  Fleet.Isolated.run hH calls hpfxes
    ⟨fun j node hnode => by simp [hnodes j] at hnode, fun j i hi => absurd hi (hfree j i)⟩

/-- Two fresh clusters, of prefixes `aaaaaa` and `bbbbbb`, on an empty in-memory daemon. -/
def twoClusters : Fleet Bool Daemon :=
  ⟨fun b => if b then testCluster else { testCluster with containerPrefix := "bbbbbb" }, {}⟩

theorem fleet_isolated_two_clusters :
    (∀ j, (twoClusters.clusters j).nodes = []) ∧ twoClusters.DistinctPrefixes ∧
    (∀ j i, containerName (twoClusters.clusters j).containerPrefix i ∉
      twoClusters.world.containers) ∧
    (twoClusters.run (Daemon.host { startFails := [1] })
      [(true, .newNodes 1), (false, .newNodes 2), (true, .newNodes 1)]).Isolated
      fun d name => name ∈ d.containers :=
  have hnodes : ∀ j, (twoClusters.clusters j).nodes = [] := by decide
  have hd : twoClusters.DistinctPrefixes := by unfold Fleet.DistinctPrefixes; decide
  have hfree : ∀ j i, containerName (twoClusters.clusters j).containerPrefix i ∉
      twoClusters.world.containers := fun _ _ => List.not_mem_nil _
  ⟨hnodes, hd, hfree, fleet_isolated _ _ (Daemon.host_keepsNames _) twoClusters hnodes hd hfree _⟩

/-- Two clusters that drew the same prefix do interfere: once the first has made two nodes, the
daemon holds the second's name `1` while the second has no node. -/
example : ¬ ((⟨fun _ => testCluster, {}⟩ : Fleet Bool Daemon).run (Daemon.host {})
    [(true, .newNodes 2), (false, .newNodes 1)]).Isolated fun d name => name ∈ d.containers :=
  fun h => absurd (h.bounded false 1 (by decide)) (by decide)

end Clustertest.Docker

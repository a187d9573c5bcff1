import Mathlib.Data.List.Nodup
import Clustertest.Docker.Spec

/-!
# Recorded nodes are numbered by position and named after their number

A docker cluster lives through `NewCluster` and then any sequence of calls, each against the same
host. Along every such run, whatever each host call answers, node `i` of `c.Nodes` has ID `i`
and container name `clustertest-<prefix>-<i>` (`Cluster.NodesWellFormed`). The IDs of the
recorded nodes, and their container names, are therefore pairwise distinct; for the names this
rests on the injectivity of the decimal rendering (`containerName_injective`).

The step lemma is `NodesWellFormed.step`, from `Appends` (what one call of `NewNodes` does); the
run lemma is `Reachable.nodesWellFormed`.
-/

namespace Clustertest.Docker

variable {σ : Type}

/-- The calls a test makes on a docker cluster. -/
inductive Call where
  | newNodes (n : Int)
  | cleanup

/-- One call on the cluster, in the world it runs in. -/
def step (H : Host σ) : Call → Cluster × σ → Cluster × σ
  | .newNodes n, (c, w) => ((c.newNodes H n w).cluster, (c.newNodes H n w).world)
  | .cleanup, s => s

/-- A sequence of calls. -/
def run (H : Host σ) : List Call → Cluster × σ → Cluster × σ
  | [], s => s
  | call :: calls, s => run H calls (step H call s)

/-- The states a docker cluster reaches on host `H`: what `NewCluster` returns, then any
calls. -/
inductive Reachable (H : Host σ) : Cluster × σ → Prop
  | newCluster {baseImage : String} {w w' : σ} {c : Cluster} :
      newCluster H baseImage w = (.ok c, w') → Reachable H (c, w')
  | step {s : Cluster × σ} (call : Call) : Reachable H s → Reachable H (step H call s)

theorem Reachable.run {H : Host σ} {s : Cluster × σ} (h : Reachable H s) :
    ∀ calls, Reachable H (run H calls s)
  | [] => h
  | call :: calls => (h.step call).run calls

/-! ## Names -/

/-- Distinct IDs give distinct container names. -/
theorem containerName_injective (containerPrefix : String) :
    Function.Injective (containerName containerPrefix) := fun a b h => by
  simp only [containerName, String.ext_iff, String.data_append, List.append_cancel_left_eq] at h
  exact repr_injective (String.ext h)

/-- Nodes named after their IDs carry the names of their IDs, in order. -/
theorem map_containerName_of_names {nodes : List Node} {containerPrefix : String}
    (h : ∀ node ∈ nodes, node.containerName = containerName containerPrefix node.id) :
    nodes.map Node.containerName = (nodes.map Node.id).map (containerName containerPrefix) := by
  rw [List.map_map]
  exact List.map_congr_left h

/-! ## The invariant -/

/-- Node `i` of `c.Nodes` has ID `i` and is named after it. -/
structure Cluster.NodesWellFormed (c : Cluster) : Prop where
  ids : c.nodes.map Node.id = List.range c.nodes.length
  names : ∀ node ∈ c.nodes, node.containerName = containerName c.containerPrefix node.id

namespace Cluster.NodesWellFormed

variable {c c' : Cluster} {s : Cluster × σ}

theorem of_nil (h : c.nodes = []) : c.NodesWellFormed := ⟨by simp [h], by simp [h]⟩

/-- Appending a run numbered on from the length keeps the invariant. -/
theorem appends (hwf : c.NodesWellFormed) {added : List Node} (h : Appends c c' added) :
    c'.NodesWellFormed := by
  obtain ⟨⟨pulled, rfl⟩, hids, hnames⟩ := h
  refine ⟨?_, fun node hnode => ?_⟩
  · simpa [hwf.ids, hids, List.range_eq_range', Nat.add_comm] using
      List.range'_append 0 c.nodes.length added.length 1
  · rcases List.mem_append.mp hnode with hnode | hnode
    · exact hwf.names node hnode
    · exact hnames node hnode

/-- **Step lemma**: every call keeps the invariant. -/
theorem step (hwf : s.1.NodesWellFormed) (H : Host σ) (call : Call) :
    (step H call s).1.NodesWellFormed := by
  cases call with
  | newNodes n =>
    obtain ⟨_, happ, -⟩ := newNodes_spec H s.1 n s.2
    exact hwf.appends happ
  | cleanup => exact hwf

/-- The node at position `i` has ID `i`. -/
theorem id_getElem (hwf : c.NodesWellFormed) (i : Nat) (h : i < c.nodes.length) :
    c.nodes[i].id = i := by
  have := List.getElem_of_eq hwf.ids (by simpa using h)
  rwa [List.getElem_map, List.getElem_range] at this

/-- The container names are the names of `0, 1, ...`, in order. -/
theorem map_containerName (hwf : c.NodesWellFormed) :
    c.nodes.map Node.containerName =
      (List.range c.nodes.length).map (containerName c.containerPrefix) := by
  rw [map_containerName_of_names hwf.names, hwf.ids]

end Cluster.NodesWellFormed

/-- **Run lemma**: every reachable state keeps the invariant. -/
theorem Reachable.nodesWellFormed {H : Host σ} {s : Cluster × σ} (h : Reachable H s) :
    s.1.NodesWellFormed := by
  induction h with
  | newCluster hc => exact .of_nil (newCluster_ok hc).1
  | step call _ ih => exact ih.step H call

/-- **Node `i` of every reachable cluster has ID `i` and container name
`clustertest-<prefix>-<i>`, so the IDs, and the names, of the recorded nodes are pairwise
distinct.** -/
theorem reachable_nodes_numbered (H : Host σ) (s : Cluster × σ) (h : Reachable H s) :
    (∀ i (hi : i < s.1.nodes.length), s.1.nodes[i].id = i ∧
      s.1.nodes[i].containerName = "clustertest-" ++ s.1.containerPrefix ++ "-" ++ toString i) ∧
    (s.1.nodes.map Node.id).Nodup ∧ (s.1.nodes.map Node.containerName).Nodup := by
  have hwf := h.nodesWellFormed
  refine ⟨fun i hi => ?_, hwf.ids ▸ List.nodup_range _, ?_⟩
  · have hid := hwf.id_getElem i hi
    exact ⟨hid, (hwf.names _ (List.getElem_mem hi)).trans (by rw [hid]; rfl)⟩
  · rw [hwf.map_containerName]
    exact (List.nodup_range _).map (containerName_injective _)

theorem reachable_nodes_numbered_after_two :
    let s := run (Daemon.host {}) [.newNodes 2] (testCluster, {})
    s.1.nodes.length = 2 ∧
    (∀ i (hi : i < s.1.nodes.length), s.1.nodes[i].id = i ∧
      s.1.nodes[i].containerName = "clustertest-" ++ s.1.containerPrefix ++ "-" ++ toString i) ∧
    (s.1.nodes.map Node.id).Nodup ∧ (s.1.nodes.map Node.containerName).Nodup :=
  ⟨by decide, reachable_nodes_numbered _ _ ((Reachable.newCluster (newCluster_host {})).run _)⟩

end Clustertest.Docker

import Clustertest.BasicCluster
import Clustertest.Docker.Invariant

/-!
# What `NewNodes` returns, through `BasicCluster`

The docker cluster as an implementation of the `Cluster` interface (`Cluster.impl`), and the
results of one call:

* on a `nil` error, `NewNodes` returns exactly `max(n, 0)` nodes, numbered on from the old length
  of `c.Nodes`, and they are exactly what it appended; `BasicCluster.NewNodes` wraps them in
  order, and `BasicCluster.NewNode`, with its `Log` set, never panics over a docker cluster;
* on an error, `NewNodes` returns no node, though the nodes of the iterations before the failing
  one stay in `c.Nodes`, started: a failing call stopped at one point (`newNodes_stops`), before
  its loop or at an iteration `k`, and then it kept what `NewNodes(ctx, k)` returns.
  `BasicCluster.NewNodes` returns an empty list with the error;
* every error of `NewCluster` and of `NewNodes` names the step that failed
  (`newCluster_err`, `newNodes_err_context`).
-/

namespace Clustertest.Docker

variable {σ : Type}

/-- The docker cluster on host `H` behind the `Cluster` interface: its state is the cluster and
the world. -/
def Cluster.impl (H : Host σ) : ClusterImpl (Cluster × σ) Node where
  newNodes s n :=
    let r := s.1.newNodes H n s.2
    ((r.nodes, r.err), (r.cluster, r.world))

/-! ## Success -/

/-- A call that returns `nil` returns `n.toNat` nodes, numbered on from the old length, and
appended them all. -/
theorem newNodes_ok {H : Host σ} {c : Cluster} {n : Int} {w : σ}
    (h : (c.newNodes H n w).err = none) :
    (c.newNodes H n w).nodes.length = n.toNat ∧
    (c.newNodes H n w).nodes.map Node.id = List.range' c.nodes.length n.toNat ∧
    (c.newNodes H n w).cluster.nodes = c.nodes ++ (c.newNodes H n w).nodes := by
  obtain ⟨added, ⟨⟨_, hc⟩, hids, -⟩, hok, -⟩ := newNodes_spec H c n w
  obtain ⟨hnodes, hlen⟩ := hok h
  rw [hnodes, hc, hids, hlen]
  exact ⟨rfl, rfl, rfl⟩

/-- **On a `nil` error, `NewNodes` returns exactly `max(n, 0)` nodes, with IDs `L`, `L+1`, ...,
in order, and appends exactly them to `c.Nodes`; `BasicCluster.NewNodes` wraps each in order;
so `BasicCluster.NewNode` over a docker cluster never indexes an empty list.** -/
theorem newNodes_ok_exactly (H : Host σ) :
    (∀ (c : Cluster) (n : Int) (w : σ), (c.newNodes H n w).err = none →
      (c.newNodes H n w).nodes.length = n.toNat ∧
      (c.newNodes H n w).nodes.map Node.id = List.range' c.nodes.length n.toNat ∧
      (c.newNodes H n w).cluster.nodes = c.nodes ++ (c.newNodes H n w).nodes) ∧
    (∀ (bc : BasicCluster (Cluster × σ)) (n : Int),
      (bc.newNodes (Cluster.impl H) n).1.1.map BasicNode.node =
        ((Cluster.impl H).newNodes bc.cluster n).1.1) ∧
    (∀ bc : BasicCluster (Cluster × σ), ∃ r, (bc.newNode (Cluster.impl H)).1 = .ok r) := by
  refine ⟨fun _ _ _ => newNodes_ok, fun bc n => bc.newNodes_map_node _ n, fun bc => ?_⟩
  rcases h : (bc.newNode (Cluster.impl H)).1 with p | r
  · -- a panic needs no node and a nil error, but a nil error comes with one node
    obtain ⟨hnil, herr⟩ := Prod.mk.inj ((BasicCluster.newNode_panics_iff _ bc).mp ⟨p, h⟩)
    have hlen : (1 : Int).toNat = 0 := (newNodes_ok herr).1.symm.trans (congrArg List.length hnil)
    cases hlen
  · exact ⟨r, rfl⟩

theorem newNodes_ok_exactly_two :
    (testCluster.newNodes (Daemon.host {}) 2 {}).err = none ∧
    (testCluster.newNodes (Daemon.host {}) 2 {}).nodes.length = (2 : Int).toNat ∧
    (testCluster.newNodes (Daemon.host {}) 2 {}).nodes.map Node.id =
      List.range' testCluster.nodes.length (2 : Int).toNat ∧
    (testCluster.newNodes (Daemon.host {}) 2 {}).cluster.nodes =
      testCluster.nodes ++ (testCluster.newNodes (Daemon.host {}) 2 {}).nodes :=
  ⟨by decide, (newNodes_ok_exactly (Daemon.host {})).1 testCluster 2 {} (by decide)⟩

/-- **A failing loop stopped at one iteration `j < k`**: its first `j` iterations are a loop of
`j` iterations that succeeds and leaves the same cluster, and the loop of `j + 1` fails as it
does. -/
theorem newNodesLoop_stops (H : Host σ) (bin : String) (startID : Nat) {e : Error} :
    ∀ k i c newNodes w, (newNodesLoop H bin startID k i c newNodes w).1.1 = .error e →
      ∃ j < k, (∃ l, (newNodesLoop H bin startID j i c newNodes w).1.1 = .ok l) ∧
        (newNodesLoop H bin startID j i c newNodes w).1.2 =
          (newNodesLoop H bin startID k i c newNodes w).1.2 ∧
        (newNodesLoop H bin startID (j + 1) i c newNodes w).1.1 = .error e
  | 0, _, _, _, _, h => nomatch h
  | k + 1, i, c, newNodes, w, h => by
    rcases hp : c.provisionNode H bin (startID + i) w with ⟨_ | node, w'⟩ <;>
      simp only [newNodesLoop, hp] at h
    · -- the first iteration failed
      refine ⟨0, Nat.zero_lt_succ k, ?_⟩
      simp only [newNodesLoop, hp]
      exact ⟨⟨newNodes, rfl⟩, trivial, h⟩
    · obtain ⟨j, hj, hok, hc, herr⟩ := newNodesLoop_stops H bin startID k _ _ _ _ h
      refine ⟨j + 1, Nat.succ_lt_succ hj, ?_⟩
      simp only [newNodesLoop, hp]
      exact ⟨hok, hc, herr⟩

/-- Past its three checks, `NewNodes` fails as its loop does and leaves the loop's cluster. -/
theorem newNodes_loop {H : Host σ} {c c' : Cluster} {w w₁ w₂ : σ} {wd : String} (n : Int)
    (h₁ : H.getwd w = (.ok wd, w₁)) (hbin : H.findUp "nodeagent" wd w₁ ≠ "")
    (h₂ : c.ensureImagePulled H w₁ = (.ok c', w₂)) :
    ((c.newNodes H n w).err = none ↔ ∃ l,
      (newNodesLoop H (H.findUp "nodeagent" wd w₁) c'.nodes.length n.toNat 0 c' [] w₂).1.1 =
        .ok l) ∧
    (∀ e, (c.newNodes H n w).err = some e ↔
      (newNodesLoop H (H.findUp "nodeagent" wd w₁) c'.nodes.length n.toNat 0 c' [] w₂).1.1 =
        .error e) ∧
    (c.newNodes H n w).cluster =
      (newNodesLoop H (H.findUp "nodeagent" wd w₁) c'.nodes.length n.toNat 0 c' [] w₂).1.2 := by
  simp only [Cluster.newNodes, h₁, hbin, h₂, if_false]
  split <;> rename_i heq <;> simp [heq]

/-- **A failing `NewNodes` stopped at one point**: before its loop, where `NewNodes(ctx, 0)`
fails alike and the cluster is left as it was; or at an iteration `k < max(n, 0)` of its loop,
where `NewNodes(ctx, k)` succeeds and leaves the same cluster and `NewNodes(ctx, k + 1)` fails
alike. -/
theorem newNodes_stops {H : Host σ} {c : Cluster} {n : Int} {w : σ} {e : Error}
    (h : (c.newNodes H n w).err = some e) :
    ((c.newNodes H 0 w).err = some e ∧ (c.newNodes H n w).cluster = c) ∨
    ∃ k < n.toNat, (c.newNodes H k w).err = none ∧
      (c.newNodes H k w).cluster = (c.newNodes H n w).cluster ∧
      (c.newNodes H (k + 1 : Nat) w).err = some e := by
  -- the three checks before the loop do not depend on `n`
  rcases h₁ : H.getwd w with ⟨_ | wd, w₁⟩
  · simp only [Cluster.newNodes, h₁] at h ⊢
    exact .inl ⟨h, trivial⟩
  by_cases hbin : H.findUp "nodeagent" wd w₁ = ""
  · simp only [Cluster.newNodes, h₁, hbin, if_true] at h ⊢
    exact .inl ⟨h, trivial⟩
  rcases h₂ : c.ensureImagePulled H w₁ with ⟨_ | c', w₂⟩
  · simp only [Cluster.newNodes, h₁, hbin, h₂, if_false] at h ⊢
    exact .inl ⟨h, trivial⟩
  have hn := newNodes_loop n h₁ hbin h₂
  obtain ⟨k, hk, ⟨l, hok⟩, hc, herr⟩ := newNodesLoop_stops H _ _ _ _ _ _ _ ((hn.2.1 e).mp h)
  have hk₀ := newNodes_loop k h₁ hbin h₂
  have hk₁ := newNodes_loop (k + 1 : Nat) h₁ hbin h₂
  simp only [Int.toNat_ofNat] at hk₀ hk₁
  exact .inr ⟨k, hk, hk₀.1.mpr ⟨l, hok⟩, hk₀.2.2.trans (hc.trans hn.2.2.symm), (hk₁.2.1 e).mpr herr⟩

/-- **On an error, `NewNodes` returns no node, while `c.Nodes` keeps the nodes of the iterations
before the failing one**: none when it failed before its loop (where `NewNodes(ctx, 0)` fails
alike); otherwise the `k < max(n, 0)` nodes that `NewNodes(ctx, k)` returns from the same state,
numbered on from `L`, where `NewNodes(ctx, k + 1)` fails alike. `BasicCluster.NewNodes` returns
an empty list with the error. -/
theorem newNodes_error_returns_nil (H : Host σ) (c : Cluster) (n : Int) (w : σ) (e : Error)
    (h : (c.newNodes H n w).err = some e) :
    (c.newNodes H n w).nodes = [] ∧
    (∃ added, (c.newNodes H n w).cluster.nodes = c.nodes ++ added ∧
      added.map Node.id = List.range' c.nodes.length added.length ∧
      ((added = [] ∧ (c.newNodes H 0 w).err = some e) ∨
        (added.length < n.toNat ∧ (c.newNodes H added.length w).err = none ∧
          (c.newNodes H added.length w).nodes = added ∧
          (c.newNodes H (added.length + 1 : Nat) w).err = some e))) ∧
    ∀ log : Logger, (BasicCluster.newNodes (Cluster.impl H) ⟨(c, w), log⟩ n).1 = ([], some e) := by
  obtain ⟨_, -, -, hfail⟩ := newNodes_spec H c n w
  have hnil := (hfail (by simp [h])).1
  refine ⟨hnil, ?_, fun log => by simp [BasicCluster.newNodes_eq, Cluster.impl, hnil, h]⟩
  rcases newNodes_stops h with ⟨h₀, hc⟩ | ⟨k, hk, hok, hc, herr⟩
  · exact ⟨[], by rw [hc, List.append_nil], rfl, .inl ⟨rfl, h₀⟩⟩
  · obtain ⟨hlen, hids, hnodes⟩ := newNodes_ok hok
    simp only [Int.toNat_ofNat] at hlen hids
    refine ⟨_, hc ▸ hnodes, by rw [hids, hlen], .inr ?_⟩
    rw [hlen]
    exact ⟨hk, hok, rfl, herr⟩

theorem newNodes_error_returns_nil_second_port :
    (testCluster.newNodes (Daemon.host { portFails := [1] }) 2 {}).err =
      some (.wrap "acquiring ephemeral port" (.new "no free port")) ∧
    (testCluster.newNodes (Daemon.host { portFails := [1] }) 2 {}).nodes = [] ∧
    (∃ added, (testCluster.newNodes (Daemon.host { portFails := [1] }) 2 {}).cluster.nodes =
        testCluster.nodes ++ added ∧
      added.map Node.id = List.range' testCluster.nodes.length added.length ∧
      ((added = [] ∧ (testCluster.newNodes (Daemon.host { portFails := [1] }) 0 {}).err =
          some (.wrap "acquiring ephemeral port" (.new "no free port"))) ∨
        (added.length < (2 : Int).toNat ∧
          (testCluster.newNodes (Daemon.host { portFails := [1] }) added.length {}).err = none ∧
          (testCluster.newNodes (Daemon.host { portFails := [1] }) added.length {}).nodes = added ∧
          (testCluster.newNodes (Daemon.host { portFails := [1] }) (added.length + 1 : Nat) {}).err =
            some (.wrap "acquiring ephemeral port" (.new "no free port"))))) ∧
    ∀ log : Logger, (BasicCluster.newNodes (Cluster.impl (Daemon.host { portFails := [1] }))
      ⟨(testCluster, {}), log⟩ 2).1 = ([], some (.wrap "acquiring ephemeral port" (.new "no free port"))) :=
  ⟨rfl, newNodes_error_returns_nil _ _ _ _ _ rfl⟩

/-- With two nodes asked for and the second port unavailable, `NewNodes` fails and returns no
node, though the first node's container was started and recorded in `c.Nodes`. -/
theorem newNodes_error_drops_started_node :
    (testCluster.newNodes (Daemon.host { portFails := [1] }) 2 {}).err.isSome ∧
    (testCluster.newNodes (Daemon.host { portFails := [1] }) 2 {}).nodes = [] ∧
    (testCluster.newNodes (Daemon.host { portFails := [1] }) 2 {}).cluster.nodes.drop
      testCluster.nodes.length ≠ [] := by
  decide

/-! ## Error messages -/

/-- Every error of `NewCluster` names the step that failed. -/
theorem newCluster_err {H : Host σ} {baseImage : String} {w w' : σ} {e : Error}
    (h : newCluster H baseImage w = (.error e, w')) :
    ∃ (ctx : String) (e' : Error), e = e'.wrap ctx ∧
      ctx ∈ ["building Docker client", "generating TLS cert"] := by
  simp only [newCluster] at h
  repeat' split at h
  all_goals cases h
  all_goals exact ⟨_, _, rfl, by decide⟩

/-- The loop body fails with the host's error under the context of the step that failed; a
failed start names the container. -/
theorem provisionNode_err {H : Host σ} {c : Cluster} {bin : String} {id : Nat} {w w' : σ}
    {e : Error} (h : c.provisionNode H bin id w = (.error e, w')) :
    ∃ (ctx : String) (e' : Error), e = e'.wrap ctx ∧
      (ctx ∈ ["acquiring ephemeral port", "creating Docker container", "building nodeagent client"] ∨
        ∃ containerID, ctx = "starting container " ++ quote containerID) := by
  simp only [Cluster.provisionNode] at h
  repeat' split at h
  all_goals cases h
  exacts [⟨_, _, rfl, .inl (by decide)⟩, ⟨_, _, rfl, .inl (by decide)⟩, ⟨_, _, rfl, .inr ⟨_, rfl⟩⟩,
    ⟨_, _, rfl, .inl (by decide)⟩]

/-- An error of the loop is an error of its body. -/
theorem newNodesLoop_err (H : Host σ) (bin : String) (startID : Nat) {e : Error} :
    ∀ k i c newNodes w, (newNodesLoop H bin startID k i c newNodes w).1.1 = .error e →
      ∃ (c' : Cluster) (id : Nat) (w₀ w₁ : σ), c'.provisionNode H bin id w₀ = (.error e, w₁)
  | 0, _, _, _, _, h => nomatch h
  | k + 1, i, c, newNodes, w, h => by
    rcases hp : c.provisionNode H bin (startID + i) w with ⟨_ | node, w'⟩ <;>
      simp only [newNodesLoop, hp] at h
    · cases h
      exact ⟨c, _, w, w', hp⟩
    · exact newNodesLoop_err H bin startID k _ _ _ _ h

/-- **Every error of `NewNodes` names the step that failed**: the agent binary was not found, or
the error is the host's under the context of its step. -/
theorem newNodes_err_context (H : Host σ) (c : Cluster) (n : Int) (w : σ) {e : Error}
    (h : (c.newNodes H n w).err = some e) :
    e = .new "unable to find nodeagent bin" ∨
    ∃ (ctx : String) (e' : Error), e = e'.wrap ctx ∧
      (ctx ∈ ["getting wd", "pulling image", "acquiring ephemeral port",
          "creating Docker container", "building nodeagent client"] ∨
        ∃ containerID, ctx = "starting container " ++ quote containerID) := by
  simp only [Cluster.newNodes] at h
  repeat' split at h
  all_goals cases h
  · exact .inr ⟨_, _, rfl, .inl (by decide)⟩
  · exact .inl rfl
  · exact .inr ⟨_, _, rfl, .inl (by decide)⟩
  · rename_i hloop
    obtain ⟨_, _, _, _, hp⟩ := newNodesLoop_err H _ _ _ _ _ _ _ (congrArg (·.1.1) hloop)
    obtain ⟨ctx, e', rfl, hctx⟩ := provisionNode_err hp
    exact .inr ⟨ctx, e', rfl,
      hctx.imp_left fun hmem => List.mem_cons_of_mem _ (List.mem_cons_of_mem _ hmem)⟩

end Clustertest.Docker

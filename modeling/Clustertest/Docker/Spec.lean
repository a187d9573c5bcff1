import Clustertest.Docker.Daemon

/-!
# What one call of `NewNodes` does

One spec lemma per function of `NewCluster` and `NewNodes`, each saying all that its caller
needs, so that later proofs never unfold the code:

* `newCluster_ok` — `NewCluster` starts with no nodes, the image not pulled, and a prefix of six
  characters of `chars`;
* `provisionNode_ok` — a provisioned node carries the ID it was asked for and the container name
  built from it;
* `newNodesLoop_spec` — the loop's invariant: whatever fails and wherever, the cluster after the
  loop is the cluster before it with a run of nodes `added` appended, numbered on from
  `startID + i` and named after their numbers; on success the loop returns all of them, after
  exactly `k` iterations; on failure it stopped before the `k`-th;
* `newNodes_spec` — the same for the whole call, as `Appends`: on success `NewNodes` returns
  exactly the appended nodes, `n.toNat` of them; on failure it returns none, while the nodes of
  the iterations before the failing one stay in `c.Nodes`.
-/

namespace Clustertest.Docker

variable {σ : Type}

/-- `randString n` draws `n` characters of `chars`. -/
theorem randString_spec (H : Host σ) :
    ∀ n w, (randString H n w).1.length = n ∧ ∀ ch ∈ (randString H n w).1.data, ch ∈ chars
  | 0, _ => ⟨rfl, fun _ h => nomatch h⟩
  | n + 1, w => by
    obtain ⟨hlen, hmem⟩ := randString_spec H n (H.intn chars.length w).2
    refine ⟨congrArg Nat.succ hlen, fun ch h => ?_⟩
    rcases List.mem_cons.mp h with rfl | h
    · exact List.get_mem _ _ _
    · exact hmem ch h

/-- `NewCluster` starts with no nodes, the image not pulled, and a prefix of six characters of
`chars`. -/
theorem newCluster_ok {H : Host σ} {baseImage : String} {w w' : σ} {c : Cluster}
    (h : newCluster H baseImage w = (.ok c, w')) :
    c.nodes = [] ∧ c.imagePulled = false ∧ c.baseImage = baseImage ∧
    c.containerPrefix.length = 6 ∧ ∀ ch ∈ c.containerPrefix.data, ch ∈ chars := by
  simp only [newCluster] at h
  repeat' split at h
  all_goals cases h
  exact ⟨rfl, rfl, rfl, randString_spec H 6 _⟩

/-- A node that the loop body returns has the ID it was asked for, and is named after it. -/
theorem provisionNode_ok {H : Host σ} {c : Cluster} {bin : String} {id : Nat} {w w' : σ}
    {node : Node} (h : c.provisionNode H bin id w = (.ok node, w')) :
    node.id = id ∧ node.containerName = containerName c.containerPrefix id := by
  simp only [Cluster.provisionNode] at h
  repeat' split at h
  all_goals cases h
  exact ⟨rfl, rfl⟩

/-- **The loop invariant of `NewNodes`.** -/
theorem newNodesLoop_spec (H : Host σ) (bin : String) (startID : Nat) :
    ∀ (k i : Nat) (c : Cluster) (newNodes : List Node) (w : σ),
    ∃ added : List Node,
      (newNodesLoop H bin startID k i c newNodes w).1.2 = { c with nodes := c.nodes ++ added } ∧
      added.map Node.id = List.range' (startID + i) added.length ∧
      (∀ node ∈ added, node.containerName = containerName c.containerPrefix node.id) ∧
      (∀ l, (newNodesLoop H bin startID k i c newNodes w).1.1 = .ok l →
        l = newNodes ++ added ∧ added.length = k) ∧
      (∀ e, (newNodesLoop H bin startID k i c newNodes w).1.1 = .error e → added.length < k)
  | 0, i, c, newNodes, w => ⟨[], by simp [newNodesLoop]⟩
  | k + 1, i, c, newNodes, w => by
    rcases hp : c.provisionNode H bin (startID + i) w with ⟨_ | node, w'⟩
    · exact ⟨[], by simp [newNodesLoop, hp]⟩
    obtain ⟨added, hc, hids, hnames, hok, herr⟩ := newNodesLoop_spec H bin startID k (i + 1)
      { c with nodes := c.nodes ++ [node] } (newNodes ++ [node]) w'
    obtain ⟨hid, hname⟩ := provisionNode_ok hp
    simp only [newNodesLoop, hp]
    refine ⟨node :: added, by simpa using hc, ?_, ?_, fun l hl => by simpa using hok l hl,
      fun e he => by simpa using herr e he⟩
    · simp [hid, hids, List.range'_succ, Nat.add_assoc]
    · simp only [List.mem_cons, forall_eq_or_imp]
      exact ⟨hid ▸ hname, hnames⟩

/-- A successful `ensureImagePulled` only marks the image pulled. -/
theorem ensureImagePulled_ok {H : Host σ} {c c' : Cluster} {w w' : σ}
    (h : c.ensureImagePulled H w = (.ok c', w')) : c' = { c with imagePulled := true } := by
  simp only [Cluster.ensureImagePulled] at h
  split at h
  · cases h
    cases c
    simp_all
  · repeat' split at h
    all_goals cases h
    rfl

/-- What one call of `NewNodes` does to the cluster: `c'` is `c` with the nodes `added`
appended, numbered on from the length of `c.Nodes` and named after their numbers, and the
image perhaps marked pulled. Nothing else changes. -/
structure Appends (c c' : Cluster) (added : List Node) : Prop where
  cluster_eq : ∃ pulled, c' = { c with nodes := c.nodes ++ added, imagePulled := pulled }
  ids : added.map Node.id = List.range' c.nodes.length added.length
  names : ∀ node ∈ added, node.containerName = containerName c.containerPrefix node.id

theorem Appends.nil (c : Cluster) : Appends c c [] :=
  ⟨⟨c.imagePulled, by simp⟩, rfl, by simp⟩

/-- **What one call of `NewNodes` does**, whatever the host answers. -/
theorem newNodes_spec (H : Host σ) (c : Cluster) (n : Int) (w : σ) :
    ∃ added, Appends c (c.newNodes H n w).cluster added ∧
      ((c.newNodes H n w).err = none →
        (c.newNodes H n w).nodes = added ∧ added.length = n.toNat) ∧
      ((c.newNodes H n w).err ≠ none →
        (c.newNodes H n w).nodes = [] ∧ (added = [] ∨ added.length < n.toNat)) := by
  simp only [Cluster.newNodes]
  -- the three early returns leave the cluster as it was
  iterate 3 (split; · exact ⟨[], .nil c, by simp, by simp⟩)
  rename_i wd w₁ _ _ _ c' w' hpull
  obtain rfl := ensureImagePulled_ok hpull
  obtain ⟨added, hc, hids, hnames, hok, herr⟩ :=
    newNodesLoop_spec H (H.findUp "nodeagent" wd w₁) c.nodes.length n.toNat 0
      { c with imagePulled := true } [] w'
  have happ : Appends c (newNodesLoop H (H.findUp "nodeagent" wd w₁) c.nodes.length n.toNat 0
      { c with imagePulled := true } [] w').1.2 added :=
    ⟨⟨true, by simp [hc]⟩, by simpa using hids, hnames⟩
  split <;> rename_i heq <;> rw [heq] at happ hok herr <;> simp only at hok herr
  · exact ⟨added, happ, by simp, fun _ => ⟨rfl, .inr (herr _ rfl)⟩⟩
  · obtain ⟨hl, hlen⟩ := hok _ rfl
    simp only [List.nil_append] at hl
    subst hl
    exact ⟨_, happ, by simp [hlen], by simp⟩

end Clustertest.Docker

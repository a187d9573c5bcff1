import Clustertest.Docker.Invariant

/-!
# The names the daemon holds

`NewNodes` asks the Docker daemon for one container per node, under the node's name. This module
follows what one call does to the names the daemon holds, on any daemon that keeps its names as
the code relies on (`Host.KeepsNames`): a successful `ContainerCreate` adds its name, a failed one
adds none, and no other call that `NewNodes` makes changes them.

One call drops no name and adds only names of its own cluster, numbered from the old length of
`c.Nodes` up to the new one (`Host.KeepsNames.newNodes`). The nodes it appends are held. The name
after them is held exactly when the call failed after creating that container, at
`ContainerStart` or at `agent.NewClient` (`LeavesContainer`). Every error text of `NewNodes`
begins with a letter of its own, so the error alone tells whether a container was left behind
(`newNodes_leaves_container_iff`).
-/

namespace Clustertest.Docker

variable {σ : Type}

/-! ## Errors that leave a container -/

/-- The errors of `NewNodes` raised after the node's container was created: by `ContainerStart`,
or by `agent.NewClient`. -/
def LeavesContainer (e : Error) : Prop :=
  (∃ (containerID : String) (inner : Error),
      e = inner.wrap ("starting container " ++ quote containerID)) ∨
    ∃ inner : Error, e = inner.wrap "building nodeagent client"

/-- Whether the loop body's container exists after it: it returned its node, or failed after
`ContainerCreate`. -/
def Created : Except Error Node → Prop
  | .ok _ => True
  | .error e => LeavesContainer e

/-- A wrapped error's text begins as its context does. -/
theorem Error.head_wrap (ctx : String) (inner : Error) (h : ctx.data ≠ []) :
    (inner.wrap ctx).text.data.head? = ctx.data.head? := by
  simp only [Error.wrap, String.data_append, List.append_assoc]
  exact List.head?_append_of_ne_nil _ h

/-- The errors that leave a container begin with `s` or with `b`. -/
theorem LeavesContainer.head {e : Error} (h : LeavesContainer e) :
    e.text.data.head? = some 's' ∨ e.text.data.head? = some 'b' := by
  rcases h with ⟨containerID, inner, rfl⟩ | ⟨inner, rfl⟩
  · left
    rw [Error.head_wrap _ _ (by simp), String.data_append,
      List.head?_append_of_ne_nil _ (by decide)]
    rfl
  · right
    rw [Error.head_wrap _ _ (by decide)]
    rfl

/-- An error whose text begins with another letter leaves no container. -/
theorem not_leavesContainer (e : Error) (hs : e.text.data.head? ≠ some 's')
    (hb : e.text.data.head? ≠ some 'b') : ¬ LeavesContainer e := fun h =>
  h.head.elim hs hb

/-- An error wrapped in a context that begins with another letter leaves no container. -/
theorem not_leavesContainer_wrap (ctx : String) (inner : Error) (hne : ctx.data ≠ [])
    (hs : ctx.data.head? ≠ some 's') (hb : ctx.data.head? ≠ some 'b') :
    ¬ LeavesContainer (inner.wrap ctx) :=
  not_leavesContainer _ (Error.head_wrap _ _ hne ▸ hs) (Error.head_wrap _ _ hne ▸ hb)

/-- A call that fails before its loop holds no new name, and its error leaves no container. -/
theorem leaves_iff_of_not {p : Prop} {e : Error} (hp : ¬ p) (he : ¬ LeavesContainer e) :
    p ↔ ∃ e', some e = some e' ∧ LeavesContainer e' :=
  iff_of_false hp fun ⟨_, h, h'⟩ => he (Option.some.inj h ▸ h')

/-! ## The daemon's names -/

/-- Going from the names `before` to the names `after`, none is dropped and only names that
`fresh` allows are taken up. -/
structure NamesGrow (before after fresh : String → Prop) : Prop where
  keep : ∀ name, before name → after name
  only : ∀ name, after name → before name ∨ fresh name

namespace NamesGrow

variable {before after after' fresh fresh' : String → Prop}

theorem of_eq (h : after = before) : NamesGrow before after fresh :=
  ⟨fun _ hn => h ▸ hn, fun _ hn => .inl (h ▸ hn)⟩

/-- Adding one name, or none. -/
theorem add (name : String) (b : Prop) :
    NamesGrow before (fun n => before n ∨ n = name ∧ b) (· = name) :=
  ⟨fun _ hn => .inl hn, fun _ hn => hn.imp_right And.left⟩

theorem trans (h : NamesGrow before after fresh) (h' : NamesGrow after after' fresh') :
    NamesGrow before after' fun n => fresh n ∨ fresh' n :=
  ⟨fun n hn => h'.keep n (h.keep n hn), fun n hn =>
    (h'.only n hn).elim (fun ha => (h.only n ha).imp_right .inl) (fun hf => .inr (.inr hf))⟩

theorem mono (h : NamesGrow before after fresh) (hf : ∀ n, fresh n → fresh' n) :
    NamesGrow before after fresh' :=
  ⟨h.keep, fun n hn => (h.only n hn).imp_right (hf n)⟩

end NamesGrow

theorem names_add_congr {p : String → Prop} {name : String} {b b' : Prop} (h : b ↔ b') :
    (fun n => p n ∨ n = name ∧ b) = fun n => p n ∨ n = name ∧ b' := by
  simp only [h]

theorem names_add_of_not {p : String → Prop} {name : String} {b : Prop} (h : ¬ b) :
    (fun n => p n ∨ n = name ∧ b) = p :=
  funext fun _ => propext (or_iff_left fun hn => h hn.2)

/-- The contract of the Docker daemon that the cluster relies on, for the names `held w` it holds
in world `w`: `ContainerCreate` adds its name when it succeeds and none when it fails, and no
other call that `NewNodes` makes changes the names. -/
structure Host.KeepsNames (H : Host σ) (held : σ → String → Prop) : Prop where
  containerCreate : ∀ config hostConfig name w,
    held (H.containerCreate config hostConfig name w).2 =
      fun n => held w n ∨ n = name ∧ (H.containerCreate config hostConfig name w).1.toBool
  getwd : ∀ w, held (H.getwd w).2 = held w
  imagePull : ∀ image w, held (H.imagePull image w).2 = held w
  readPullResponse : ∀ w, held (H.readPullResponse w).2 = held w
  getEphemeralTCPPort : ∀ w, held (H.getEphemeralTCPPort w).2 = held w
  containerStart : ∀ containerID w, held (H.containerStart containerID w).2 = held w
  newClient : ∀ certs host port w, held (H.newClient certs host port w).2 = held w
  waitForServer : ∀ agentClient w, held (H.waitForServer agentClient w).2 = held w

/-- The in-memory daemon keeps the names of the containers it has created. -/
theorem Daemon.host_keepsNames (f : Faults) :
    (Daemon.host f).KeepsNames fun d name => name ∈ d.containers where
  containerCreate _ _ name d := by
    funext n
    by_cases h : name ∈ d.containers <;> simp [Daemon.host, h, Except.toBool]
  getwd _ := rfl
  imagePull _ _ := rfl
  readPullResponse _ := rfl
  getEphemeralTCPPort _ := rfl
  containerStart _ _ := rfl
  newClient _ _ _ _ := rfl
  waitForServer _ _ := rfl

namespace Host.KeepsNames

variable {H : Host σ} {held : σ → String → Prop}

/-- **The loop body and the daemon**: it adds the name of its node exactly when it created the
node's container. -/
theorem provisionNode (hH : H.KeepsNames held) (c : Cluster) (bin : String) (id : Nat) (w : σ) :
    held (c.provisionNode H bin id w).2 = fun n =>
      held w n ∨ n = containerName c.containerPrefix id ∧ Created (c.provisionNode H bin id w).1 := by
  have h₁ := hH.getEphemeralTCPPort w
  simp only [Cluster.provisionNode]
  split
  next e₁ =>
    rw [e₁] at h₁
    rw [h₁]
    exact (names_add_of_not (not_leavesContainer_wrap "acquiring ephemeral port" _ (by decide)
      (by decide) (by decide))).symm
  next port w₁ e₁ =>
  rw [e₁] at h₁
  have h₂ := hH.containerCreate c.containerConfig (hostConfig bin port)
    (containerName c.containerPrefix id) w₁
  rw [h₁] at h₂
  split
  next e₂ =>
    rw [e₂] at h₂
    rw [h₂]
    exact names_add_congr ⟨nofun, (not_leavesContainer_wrap "creating Docker container" _
      (by decide) (by decide) (by decide)).elim⟩
  next containerID w₂ e₂ =>
  rw [e₂] at h₂
  have h₃ := hH.containerStart containerID w₂
  rw [h₂] at h₃
  split
  next e₃ =>
    rw [e₃] at h₃
    rw [h₃]
    exact names_add_congr ⟨fun _ => Or.inl ⟨_, _, rfl⟩, fun _ => rfl⟩
  next w₃ e₃ =>
  rw [e₃] at h₃
  have h₄ := hH.newClient c.cert "127.0.0.1" port w₃
  rw [h₃] at h₄
  split
  next e₄ =>
    rw [e₄] at h₄
    rw [h₄]
    exact names_add_congr ⟨fun _ => Or.inr ⟨_, rfl⟩, fun _ => rfl⟩
  next e₄ =>
    rw [e₄] at h₄
    rw [h₄]
    exact names_add_congr ⟨fun _ => trivial, fun _ => rfl⟩

theorem ensureImagePulled (hH : H.KeepsNames held) (c : Cluster) (w : σ) :
    held (c.ensureImagePulled H w).2 = held w := by
  simp only [Cluster.ensureImagePulled]
  split
  · rfl
  have h₁ := hH.imagePull c.baseImage w
  split
  next e₁ => rwa [e₁] at h₁
  next w₁ e₁ =>
  rw [e₁] at h₁
  have h₂ := hH.readPullResponse w₁
  split <;> next e₂ => rw [e₂] at h₂; exact h₂.trans h₁

theorem waitForServers (hH : H.KeepsNames held) :
    ∀ nodes w, held (Docker.waitForServers H nodes w) = held w
  | [], _ => rfl
  | node :: nodes, w =>
    (hH.waitForServers nodes _).trans (hH.waitForServer node.agentClient w)

/-- The provisioning loop adds only the names of the IDs it reaches, from `startID + i` to
`startID + i` plus the number of nodes it appends, and holds the name of every node it appends.
When none of those names was held before, the name after the appended nodes is held exactly when
the loop failed after creating its container. -/
theorem newNodesLoop (hH : H.KeepsNames held) (bin : String) (startID : Nat) :
    ∀ k i c newNodes w, ∃ added : List Node,
      (Docker.newNodesLoop H bin startID k i c newNodes w).1.2.nodes = c.nodes ++ added ∧
      NamesGrow (held w) (held (Docker.newNodesLoop H bin startID k i c newNodes w).2)
        (fun name => ∃ m ≤ added.length, name = containerName c.containerPrefix (startID + i + m)) ∧
      (∀ node ∈ added,
        held (Docker.newNodesLoop H bin startID k i c newNodes w).2 node.containerName) ∧
      ((∀ m, ¬ held w (containerName c.containerPrefix (startID + i + m))) →
        (held (Docker.newNodesLoop H bin startID k i c newNodes w).2
            (containerName c.containerPrefix (startID + i + added.length)) ↔
          ∃ e, (Docker.newNodesLoop H bin startID k i c newNodes w).1.1 = .error e ∧
            LeavesContainer e))
  | 0, _, _, _, _ => ⟨[], by simp [Docker.newNodesLoop], .of_eq rfl, by simp,
      fun hfree => by simpa [Docker.newNodesLoop] using hfree 0⟩
  | k + 1, i, c, newNodes, w => by
    have hp := hH.provisionNode c bin (startID + i) w
    rcases e : c.provisionNode H bin (startID + i) w with ⟨_ | node, w₁⟩ <;> rw [e] at hp <;>
      simp only [Docker.newNodesLoop, e]
    · refine ⟨[], by simp, hp ▸ (NamesGrow.add _ _).mono fun _ hn => ⟨0, Nat.zero_le _, hn⟩,
        by simp, fun hfree => ?_⟩
      have h0 : ¬ held w (containerName c.containerPrefix (startID + i)) := hfree 0
      simp [hp, h0, Created]
    obtain ⟨added, hnodes, hgrow, hheld, hleak⟩ := newNodesLoop hH bin startID k (i + 1)
      { c with nodes := c.nodes ++ [node] } (newNodes ++ [node]) w₁
    have hnode : held w₁ (containerName c.containerPrefix (startID + i)) := hp ▸ .inr ⟨rfl, trivial⟩
    refine ⟨node :: added, by simpa using hnodes,
      ((hp ▸ NamesGrow.add _ _).trans hgrow).mono fun n hn => ?fresh, fun node' h => ?held,
      fun hfree => ?leak⟩
    case fresh =>
      rcases hn with rfl | ⟨m, hm, rfl⟩
      · exact ⟨0, Nat.zero_le _, rfl⟩
      · exact ⟨m + 1, by simpa using hm, congrArg (containerName c.containerPrefix) (by omega)⟩
    case held =>
      rcases List.mem_cons.mp h with rfl | h
      · exact (provisionNode_ok e).2 ▸ hgrow.keep _ hnode
      · exact hheld node' h
    case leak =>
      rw [show startID + i + (node :: added).length = startID + (i + 1) + added.length by
        rw [List.length_cons]; omega]
      refine hleak fun m hm => ?_
      rw [hp] at hm
      rcases hm with hm | ⟨hm, -⟩
      · exact hfree (m + 1) (by rwa [show startID + i + (m + 1) = startID + (i + 1) + m by omega])
      · have := containerName_injective _ hm
        omega

/-- **What one call of `NewNodes` does to the daemon's names**: none is dropped, only names of
the cluster numbered from the old length of `c.Nodes` to the new one are added, and every node
appended is held. When none of those names was held before, the name after the appended nodes is
held exactly when the call failed after creating its container. -/
theorem newNodes (hH : H.KeepsNames held) (c : Cluster) (n : Int) (w : σ) :
    ∃ added : List Node, (c.newNodes H n w).cluster.nodes = c.nodes ++ added ∧
      NamesGrow (held w) (held (c.newNodes H n w).world)
        (fun name => ∃ m ≤ added.length,
          name = containerName c.containerPrefix (c.nodes.length + m)) ∧
      (∀ node ∈ added, held (c.newNodes H n w).world node.containerName) ∧
      ((∀ m, ¬ held w (containerName c.containerPrefix (c.nodes.length + m))) →
        (held (c.newNodes H n w).world
            (containerName c.containerPrefix (c.nodes.length + added.length)) ↔
          ∃ e, (c.newNodes H n w).err = some e ∧ LeavesContainer e)) := by
  have h₁ := hH.getwd w
  simp only [Cluster.newNodes]
  split
  next e₁ =>
    rw [e₁] at h₁
    exact ⟨[], by simp, .of_eq h₁, by simp, fun hfree => leaves_iff_of_not
      (by rw [h₁]; exact hfree 0)
      (not_leavesContainer_wrap "getting wd" _ (by decide) (by decide) (by decide))⟩
  next wd w₁ e₁ =>
  rw [e₁] at h₁
  split
  · exact ⟨[], by simp, .of_eq h₁, by simp, fun hfree => leaves_iff_of_not
      (by rw [h₁]; exact hfree 0)
      (not_leavesContainer (.new "unable to find nodeagent bin") (by decide) (by decide))⟩
  have h₂ := hH.ensureImagePulled c w₁
  rw [h₁] at h₂
  split
  next e₂ =>
    rw [e₂] at h₂
    exact ⟨[], by simp, .of_eq h₂, by simp, fun hfree => leaves_iff_of_not
      (by rw [h₂]; exact hfree 0)
      (not_leavesContainer_wrap "pulling image" _ (by decide) (by decide) (by decide))⟩
  next c' w₂ e₂ =>
  rw [e₂] at h₂
  obtain rfl := ensureImagePulled_ok e₂
  obtain ⟨added, hnodes, hgrow, hheld, hleak⟩ := hH.newNodesLoop (H.findUp "nodeagent" wd w₁)
    c.nodes.length n.toNat 0 { c with imagePulled := true } [] w₂
  rw [h₂] at hgrow hleak
  simp only [Nat.add_zero] at hgrow hleak
  split <;> rename_i e₃ <;> rw [e₃] at hnodes hgrow hheld hleak <;> simp only [hH.waitForServers] <;>
    exact ⟨added, hnodes, hgrow, hheld, fun hfree => (hleak hfree).trans (by simp)⟩

end Host.KeepsNames

/-- **A call of `NewNodes` leaves a container behind, under the next node's name, exactly when
it fails at `ContainerStart` or at `agent.NewClient`**: on a daemon that keeps its names, from a
cluster none of whose names from its next ID on is held. -/
theorem newNodes_leaves_container_iff (H : Host σ) (held : σ → String → Prop)
    (hH : H.KeepsNames held) (c : Cluster) (n : Int) (w : σ)
    (hfree : ∀ i, c.nodes.length ≤ i → ¬ held w (containerName c.containerPrefix i)) :
    held (c.newNodes H n w).world
        (containerName c.containerPrefix (c.newNodes H n w).cluster.nodes.length) ↔
      ∃ e, (c.newNodes H n w).err = some e ∧ LeavesContainer e := by
  obtain ⟨added, hnodes, -, -, hleak⟩ := hH.newNodes c n w
  rw [hnodes, List.length_append]
  exact hleak fun m => hfree _ (Nat.le_add_right _ _)

theorem newNodes_leaves_container_iff_first_start :
    (∀ i, testCluster.nodes.length ≤ i →
      containerName testCluster.containerPrefix i ∉ ({} : Daemon).containers) ∧
    ((containerName testCluster.containerPrefix
        (testCluster.newNodes (Daemon.host { startFails := [0] }) 2 {}).cluster.nodes.length ∈
        (testCluster.newNodes (Daemon.host { startFails := [0] }) 2 {}).world.containers) ↔
      ∃ e, (testCluster.newNodes (Daemon.host { startFails := [0] }) 2 {}).err = some e ∧
        LeavesContainer e) :=
  have hfree : ∀ i, testCluster.nodes.length ≤ i →
      containerName testCluster.containerPrefix i ∉ ({} : Daemon).containers :=
    fun _ _ => List.not_mem_nil _
  ⟨hfree, newNodes_leaves_container_iff _ _ (Daemon.host_keepsNames _) testCluster 2 {} hfree⟩

end Clustertest.Docker

import Clustertest.Docker.Invariant

/-!
# What the world keeps across calls

A property of the world that every host call `NewNodes` makes keeps (`Host.Preserves`) holds
after any call of `NewNodes`, and after any run. On the in-memory host, for instance, a container
once created is never removed: `NewNodes` has no path that deletes one.
-/

namespace Clustertest.Docker

variable {σ : Type}

/-- `P` holds of the world after each host call that `NewNodes` makes, if it held before. -/
structure Host.Preserves (H : Host σ) (P : σ → Prop) : Prop where
  getwd : ∀ w, P w → P (H.getwd w).2
  imagePull : ∀ image w, P w → P (H.imagePull image w).2
  readPullResponse : ∀ w, P w → P (H.readPullResponse w).2
  getEphemeralTCPPort : ∀ w, P w → P (H.getEphemeralTCPPort w).2
  containerCreate : ∀ config hostConfig name w, P w → P (H.containerCreate config hostConfig name w).2
  containerStart : ∀ containerID w, P w → P (H.containerStart containerID w).2
  newClient : ∀ certs host port w, P w → P (H.newClient certs host port w).2
  waitForServer : ∀ agentClient w, P w → P (H.waitForServer agentClient w).2

namespace Host.Preserves

variable {H : Host σ} {P : σ → Prop}

theorem provisionNode (hP : H.Preserves P) (c : Cluster) (bin : String) (id : Nat) {w : σ}
    (hw : P w) : P (c.provisionNode H bin id w).2 := by
  have h₁ := hP.getEphemeralTCPPort w hw
  simp only [Cluster.provisionNode]
  split
  next e₁ => rwa [e₁] at h₁
  next port w₁ e₁ =>
  rw [e₁] at h₁
  have h₂ := hP.containerCreate c.containerConfig (hostConfig bin port)
    (containerName c.containerPrefix id) w₁ h₁
  split
  next e₂ => rwa [e₂] at h₂
  next containerID w₂ e₂ =>
  rw [e₂] at h₂
  have h₃ := hP.containerStart containerID w₂ h₂
  split
  next e₃ => rwa [e₃] at h₃
  next w₃ e₃ =>
  rw [e₃] at h₃
  have h₄ := hP.newClient c.cert "127.0.0.1" port w₃ h₃
  split <;> next e₄ => rwa [e₄] at h₄

theorem newNodesLoop (hP : H.Preserves P) (bin : String) (startID : Nat) :
    ∀ k i c newNodes w, P w → P (newNodesLoop H bin startID k i c newNodes w).2
  | 0, _, _, _, _, hw => hw
  | k + 1, i, c, newNodes, w, hw => by
    have h := hP.provisionNode c bin (startID + i) hw
    rcases e : c.provisionNode H bin (startID + i) w with ⟨_ | node, w'⟩ <;> rw [e] at h <;>
      simp only [Docker.newNodesLoop, e]
    · exact h
    · exact hP.newNodesLoop bin startID k _ _ _ _ h

theorem ensureImagePulled (hP : H.Preserves P) (c : Cluster) {w : σ} (hw : P w) :
    P (c.ensureImagePulled H w).2 := by
  simp only [Cluster.ensureImagePulled]
  split
  · exact hw
  have h₁ := hP.imagePull c.baseImage w hw
  split
  next e₁ => rwa [e₁] at h₁
  next w₁ e₁ =>
  rw [e₁] at h₁
  have h₂ := hP.readPullResponse w₁ h₁
  split <;> next e₂ => rwa [e₂] at h₂

theorem waitForServers (hP : H.Preserves P) : ∀ nodes w, P w → P (waitForServers H nodes w)
  | [], _, hw => hw
  | node :: nodes, w, hw =>
    hP.waitForServers nodes _ (hP.waitForServer node.agentClient w hw)

/-- **Frame lemma**: `NewNodes` keeps what every host call keeps. -/
theorem newNodes (hP : H.Preserves P) (c : Cluster) (n : Int) {w : σ} (hw : P w) :
    P (c.newNodes H n w).world := by
  have h₁ := hP.getwd w hw
  simp only [Cluster.newNodes]
  split
  next e₁ => rwa [e₁] at h₁
  next wd w₁ e₁ =>
  rw [e₁] at h₁
  split
  · exact h₁
  have h₂ := hP.ensureImagePulled c h₁
  split
  next e₂ => rwa [e₂] at h₂
  next c' w₂ e₂ =>
  rw [e₂] at h₂
  have h₃ := hP.newNodesLoop (H.findUp "nodeagent" wd w₁) c'.nodes.length n.toNat 0 c' [] w₂ h₂
  split
  next e₃ => rwa [e₃] at h₃
  next newNodes _ w₃ e₃ =>
  rw [e₃] at h₃
  exact hP.waitForServers newNodes w₃ h₃

theorem step (hP : H.Preserves P) (call : Call) {s : Cluster × σ} (hs : P s.2) :
    P (step H call s).2 := by
  cases call with
  | newNodes n => exact hP.newNodes s.1 n hs
  | cleanup => exact hs

theorem run (hP : H.Preserves P) : ∀ calls {s : Cluster × σ}, P s.2 → P (run H calls s).2
  | [], _, hs => hs
  | call :: calls, _, hs => hP.run calls (hP.step call hs)

end Host.Preserves

end Clustertest.Docker

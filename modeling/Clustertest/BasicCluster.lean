import Clustertest.Fmt

/-!
# `BasicCluster`: the convenience layer over any cluster

`cluster.BasicCluster` wraps an implementation of the `Cluster` interface and a logger. Its
`NewNodes` wraps every node the implementation returns in a `BasicNode`, also when an error comes
with them, and passes the error on. `NewNode` calls `NewNodes` with `n = 1` and takes the first
node: if the implementation ever returned no node and no error, that index would panic
(`newNode_panics_iff`).

The method that `c.NewNodes` names inside `NewNode` is `BasicCluster`'s own, which shadows the
embedded cluster's, so the node `NewNode` returns is a `BasicNode` wrapped in a second one.

The model covers the values `New` builds, whose `Log` is set. Go also allows a literal that
skips `New` and leaves `Log` nil; `Named` on it panics as soon as `NewNodes` has a node to wrap.
Such values are left out: the model's `Logger` is never nil.
-/

namespace Clustertest

/-- A zap logger that is not nil, by its name: the segments `Named` has added. -/
structure Logger where
  names : List String
  deriving DecidableEq, Repr

/-- `l.Named(name)`. -/
def Logger.named (l : Logger) (name : String) : Logger := ⟨l.names ++ [name]⟩

/-- The `Cluster` interface as `BasicCluster` uses it: `NewNodes` on the implementation's state
`S`, returning nodes of type `α` and an error, either or both of which may be set. -/
structure ClusterImpl (S α : Type) where
  newNodes : S → Int → (List α × Option Error) × S

/-- `BasicCluster` with its `Log` set, as `New` sets it. -/
structure BasicCluster (S : Type) where
  cluster : S
  log : Logger

/-- `BasicNode`. -/
structure BasicNode (α : Type) where
  node : α
  log : Logger
  deriving DecidableEq, Repr

/-- A Go runtime panic. -/
inductive Panic where
  /-- `index out of range [index] with length length`. -/
  | indexOutOfRange (index length : Nat)
  deriving DecidableEq, Repr

namespace BasicCluster

variable {S α : Type}

/-! ## Construction -/

/-- `WithLogger(l)`: the option that makes `l`, named `basic_cluster`, the cluster's logger. -/
def withLogger (l : Logger) (c : BasicCluster S) : BasicCluster S :=
  { c with log := l.named "basic_cluster" }

/-- `New(c, opts...)`, given what `zap.NewProduction()` returns. The literal
`&BasicCluster{Cluster: c}` leaves `Log` nil, and `WithLogger(logger.Sugar())` sets it before
anything reads it; then each option applies in order. -/
def new (newProduction : Except Error Logger) (c : S)
    (opts : List (BasicCluster S → BasicCluster S)) : Except Error (BasicCluster S) :=
  match newProduction with
  | .error err => .error (err.wrap "constructing default logger")
  | .ok logger => .ok (opts.foldl (fun bc o => o bc) ⟨c, logger.named "basic_cluster"⟩)

/-! ## Nodes -/

/-- `c.NewNodes(ctx, n)`. -/
def newNodes (I : ClusterImpl S α) (c : BasicCluster S) (n : Int) :
    (List (BasicNode α) × Option Error) × BasicCluster S :=
  let ((nodes, err), s) := I.newNodes c.cluster n
  ((nodes.map fun node => ⟨node, c.log.named "basic_node"⟩, err), { c with cluster := s })

/-- `c.NewNode(ctx)`. -/
def newNode (I : ClusterImpl S α) (c : BasicCluster S) :
    Except Panic (Option (BasicNode (BasicNode α)) × Option Error) × BasicCluster S :=
  let ((nodes, err), c) := c.newNodes I 1
  match err, nodes with
  | some err, _ => (.ok (none, some err), c)
  | none, [] => (.error (.indexOutOfRange 0 0), c)
  | none, node :: _ => (.ok (some ⟨node, c.log.named "basic_node"⟩, none), c)

/-- `NewNodes` returns the implementation's nodes, each wrapped, in order, with its error. -/
theorem newNodes_eq (I : ClusterImpl S α) (c : BasicCluster S) (n : Int) :
    c.newNodes I n =
      (((I.newNodes c.cluster n).1.1.map fun node => ⟨node, c.log.named "basic_node"⟩,
        (I.newNodes c.cluster n).1.2), { c with cluster := (I.newNodes c.cluster n).2 }) := rfl

/-- `NewNodes` wraps exactly the implementation's nodes, in order. -/
theorem newNodes_map_node (I : ClusterImpl S α) (c : BasicCluster S) (n : Int) :
    (c.newNodes I n).1.1.map BasicNode.node = (I.newNodes c.cluster n).1.1 := by
  simp [newNodes_eq, Function.comp_def]

/-- **`NewNode` panics exactly when the implementation returns neither a node nor an error.** -/
theorem newNode_panics_iff (I : ClusterImpl S α) (c : BasicCluster S) :
    (∃ p, (c.newNode I).1 = .error p) ↔ (I.newNodes c.cluster 1).1 = ([], none) := by
  rcases h : I.newNodes c.cluster 1 with ⟨⟨_ | ⟨node, nodes⟩, _ | err⟩, s⟩ <;>
    simp [newNode, newNodes_eq, h]

end BasicCluster

namespace BasicNode

variable {α P R : Type}

/-- `n.Run(ctx, req)`, given the node's `StartProc` and the process's `Wait`: `0` and no error
when the process started and exited with code 0, otherwise `-1` and an error (for a non-zero
exit, whatever the code was). -/
def run (startProc : α → R → Except Error P) (wait : P → Int × Option Error) (n : BasicNode α)
    (req : R) : Int × Option Error :=
  match startProc n.node req with
  | .error err => (-1, some err)
  | .ok proc =>
    let (code, err) := wait proc
    if code ≠ 0 then (-1, some (Error.wrapNil ("non-zero exit code " ++ toString code) err))
    else (code, none)

/-- `n.RootDir()`: the node's root directory when the node has one (`rootDir?` is the check
`n.Node.(interface{ RootDir() string })`), `/` otherwise. -/
def rootDir (rootDir? : α → Option String) (n : BasicNode α) : String := (rootDir? n.node).getD "/"

end BasicNode

end Clustertest

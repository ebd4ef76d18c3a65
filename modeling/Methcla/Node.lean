import Methcla.Scheduler
import Mathlib.Data.List.Nodup
/-!
Nodes and the node registry: what Phase A creates and Phase B looks up, activates, maps and
frees (`Engine.cpp`: `m_nodes`, `Group::construct`, `Synth::construct`, `Synth::activate`).

`Methcla/Audio/Group.hpp`, `Methcla/Audio/Synth.hpp` and the `NodeMap` behind `m_nodes`
are not under src/, so everything here beyond the calls `Engine.cpp` makes is modelled
from the spec (§3, §4.5, §4.9). The registry is an association list keyed by node id; it
refuses an id it already holds (spec §3, "the engine refuses duplicates"), and that
uniqueness is a field of `NodeMap`, so no registry with two entries for one id can be built.

A node also carries `inst`, the identity of the C++ object: two nodes built under the same
id at different times are different objects, and the laws about activation are about
objects, not ids. `parent` is the identity of the group the node was added to. The child
lists and `process` of the tree belong to the DSP graph, which `Methcla.Process` takes as
given bus accesses; they are left out.
-/

set_option autoImplicit false

namespace Methcla

/-- `NodeId(args.int32())`. -/
abbrev NodeId := BitVec 32

/-- Modelled from the spec (§3, §4.8): what the engine reads of a registered `SynthDef`. -/
structure SynthDef where
  uri : String
  instanceSize : Nat
  numAudioInputs : Nat
  numAudioOutputs : Nat
  numControlInputs : Nat
  deriving Repr, DecidableEq

/-- Modelled from the spec (§3, §4.7): a synth's state. `controlInputs` holds the IEEE bits
of its control inputs; a port's mapping is its bus id and flags; `sampleOffset` is what
`activate` set, `none` while the synth is inactive; `mem` is its block in the arena. -/
structure Synth where
  synthDef : SynthDef
  controlInputs : List (BitVec 32)
  audioInputs : List (Option (BitVec 32 × BitVec 32))
  audioOutputs : List (Option (BitVec 32 × BitVec 32))
  sampleOffset : Option Time
  mem : Nat
  deriving Repr, DecidableEq

/-- A group or a synth. -/
inductive NodeKind where
  | group
  | synth (s : Synth)
  deriving Repr, DecidableEq

/-- A node: its id, the identity of its C++ object, the group it was added to (`none` for
the root) and what it is. -/
structure Node where
  id : NodeId
  inst : Nat
  parent : Option Nat
  kind : NodeKind
  deriving Repr, DecidableEq

namespace Node

/-- `node->isGroup()`. -/
def isGroup (n : Node) : Bool := n.kind matches .group

/-- `node->isSynth()`. -/
def isSynth (n : Node) : Bool := n.kind matches .synth _

end Node

/-- Modelled from the spec (§4.5): `NodeMap`, bounded by `maxNumNodes`, at most one entry
per id. -/
structure NodeMap where
  maxNumNodes : Nat
  nodes : List Node
  nodup : (nodes.map Node.id).Nodup

namespace NodeMap

/-- `NodeMap(maxNumNodes)`. -/
def new (maxNumNodes : Nat) : NodeMap := ⟨maxNumNodes, [], List.nodup_nil⟩

/-- `m_nodes.lookup(id)`: the node, or the null pointer. -/
def lookup (m : NodeMap) (id : NodeId) : Option Node := m.nodes.find? (·.id == id)

/-- `nodes().contains(id)`. -/
def contains (m : NodeMap) (id : NodeId) : Bool := m.nodes.any (·.id == id)

/-- `nodes().insert(id, node)`: refused, by throwing, when the id is taken or the map is
full. What it throws is not in src/; `Error(kMethcla_NodeIdError)` stands for it. -/
def insert (m : NodeMap) (node : Node) : Except Exception NodeMap :=
  if h : m.contains node.id = false ∧ m.nodes.length < m.maxNumNodes then
    .ok ⟨m.maxNumNodes, m.nodes ++ [node], by
      rw [List.map_append, List.nodup_append]
      refine ⟨m.nodup, List.nodup_singleton _, ?_⟩
      simp only [List.map_cons, List.map_nil, List.disjoint_singleton]
      simpa [contains] using h.1⟩
  else .error (.error .nodeIdError)

/-- `m_nodes.remove(id)`. -/
def remove (m : NodeMap) (id : NodeId) : NodeMap :=
  ⟨m.maxNumNodes, m.nodes.filter (·.id != id), (List.Sublist.map _ (List.filter_sublist _)).nodup m.nodup⟩

/-- The registry after the synth registered under `id` has been changed by `f`; the ids
stay as they were. -/
def updateSynth (m : NodeMap) (id : NodeId) (f : Synth → Synth) : NodeMap :=
  ⟨m.maxNumNodes, m.nodes.map (fun n =>
      match n.kind with
      | .synth s => if n.id = id then { n with kind := .synth (f s) } else n
      | .group => n), by
    rw [List.map_map]
    convert m.nodup using 2
    funext n
    rcases n with ⟨_, _, _, _ | _⟩ <;> simp only [Function.comp]; split <;> rfl⟩

theorem lookup_insert {m m' : NodeMap} {node n : Node} {id : NodeId}
    (hins : m.insert node = .ok m') (h : m.lookup id = some n) : m'.lookup id = some n := by
  unfold insert at hins
  split at hins
  · cases hins
    simp only [lookup] at h ⊢
    rw [List.find?_append, h]
    rfl
  · cases hins

theorem lookup_remove {m : NodeMap} {id id' : NodeId} (hne : id ≠ id') :
    (m.remove id').lookup id = m.lookup id := by
  unfold lookup remove
  dsimp only
  induction m.nodes with
  | nil => rfl
  | cons n ns ih =>
    by_cases hn : n.id = id
    · subst hn
      simp [List.filter_cons, List.find?_cons, hne]
    · by_cases hn' : n.id = id'
      · subst hn'
        simp [List.filter_cons, List.find?_cons, hn, ih]
      · simp [List.filter_cons, List.find?_cons, hn, hn', ih]

/-- The entry `lookup` finds carries the id it was asked for. -/
theorem lookup_id {m : NodeMap} {id : NodeId} {n : Node} (h : m.lookup id = some n) : n.id = id := by
  simpa using List.find?_some h

/-- What `lookup` finds after `updateSynth`: the entry it found before, changed by `f` when
it is the synth registered under the updated id. -/
theorem lookup_updateSynth_eq (m : NodeMap) (id id' : NodeId) (f : Synth → Synth) :
    (m.updateSynth id' f).lookup id = (m.lookup id).map (fun n =>
      match n.kind with
      | .synth s => if n.id = id' then { n with kind := .synth (f s) } else n
      | .group => n) := by
  unfold lookup updateSynth
  rw [List.find?_map]
  congr 2
  funext n
  simp only [Function.comp]
  split
  · split <;> rfl
  · rfl

theorem lookup_updateSynth {m : NodeMap} {id id' : NodeId} {f : Synth → Synth} {n : Node}
    (h : m.lookup id = some n) (hg : n.kind = .group) :
    (m.updateSynth id' f).lookup id = some n := by
  simp [lookup_updateSynth_eq, h, hg]

theorem lookup_updateSynth_self {m : NodeMap} {id : NodeId} {f : Synth → Synth} {n : Node}
    {s : Synth} (h : m.lookup id = some n) (hs : n.kind = .synth s) :
    (m.updateSynth id f).lookup id = some { n with kind := .synth (f s) } := by
  simp [lookup_updateSynth_eq, h, hs, lookup_id h]

end NodeMap

namespace Synth

/-- Modelled from the spec (§4.7): `synth->activate(sampleOffset)`. -/
def activate (s : Synth) (sampleOffset : Time) : Synth := { s with sampleOffset := some sampleOffset }

/-- `synth->controlInput(index) = value`. -/
def setControlInput (s : Synth) (index : Nat) (value : BitVec 32) : Synth :=
  { s with controlInputs := s.controlInputs.set index value }

/-- Modelled from the spec (§4.9): `synth->mapInput(index, busId, flags)`. -/
def mapInput (s : Synth) (index : Nat) (busId flags : BitVec 32) : Synth :=
  { s with audioInputs := s.audioInputs.set index (some (busId, flags)) }

/-- Modelled from the spec (§4.9): `synth->mapOutput(index, busId, flags)`. -/
def mapOutput (s : Synth) (index : Nat) (busId flags : BitVec 32) : Synth :=
  { s with audioOutputs := s.audioOutputs.set index (some (busId, flags)) }

end Synth

end Methcla

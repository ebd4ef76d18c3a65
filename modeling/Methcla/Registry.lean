import Methcla.Invariant
/-!
The node registry over whole runs (`Engine.cpp`: `m_nodes`, `m_rootNode`).

The constructor registers the root group under id 0. From then on the registry changes in
three ways: Phase A inserts, and `NodeMap::insert` refuses a taken id; Phase B's `/node/free`
removes, after refusing the root's id; Phase B's other branches change synths in place.
`RootRegistered` (the root is the registry's entry for its id) is kept by each of these,
hence by every dispatch, every block and every run.
-/

set_option autoImplicit false

namespace Methcla

namespace Dispatcher

/-- `m_rootNode` is the group the constructor built, and the registry's entry for its id. -/
def RootRegistered (d : Dispatcher) : Prop :=
  d.rootNode = Environment.rootGroup ∧ d.nodes.lookup Environment.rootGroup.id = some Environment.rootGroup

section Root

variable {β : Type}

theorem keeps_log (e : Event) : Keeps RootRegistered (log e) := Keeps.modify fun _ h => h

theorem keeps_liftExcept (x : Except Exception β) : Keeps RootRegistered (liftExcept x) := by
  cases x
  · exact Keeps.throw _
  · exact Keeps.pure _

theorem keeps_replyError (rid : BitVec 32) (msg : String) :
    Keeps RootRegistered (replyError rid msg) :=
  Keeps.get_bind fun d hd => by split <;> exact hd

theorem keeps_synthDef (uri : String) : Keeps RootRegistered (synthDef uri) :=
  Keeps.get_bind fun _ hd => by split <;> exact hd

theorem keeps_lookupNode (id : NodeId) : Keeps RootRegistered (lookupNode id) :=
  Keeps.get_bind fun _ hd => by split <;> exact hd

theorem keeps_lookupSynth (id : NodeId) : Keeps RootRegistered (lookupSynth id) :=
  Keeps.bind (keeps_lookupNode id) fun _ => by
    split
    · exact Keeps.pure _
    · exact Keeps.throw _

theorem keeps_insertNode (node : Node) : Keeps RootRegistered (insertNode node) :=
  Keeps.get_bind fun d hd => by
    split
    · next nodes hins => exact ⟨hd.1, NodeMap.lookup_insert hins hd.2⟩
    · exact hd

theorem keeps_updateSynth (id : NodeId) (f : Synth → Synth) :
    Keeps RootRegistered (updateSynth id f) :=
  Keeps.modify fun _ hd => ⟨hd.1, NodeMap.lookup_updateSynth hd.2 rfl⟩

theorem keeps_constructGroup (nodeId : NodeId) (parent : Option Nat) :
    Keeps RootRegistered (constructGroup nodeId parent) :=
  Keeps.modifyGet fun _ hd => hd

theorem keeps_constructSynth (nodeId : NodeId) (parent : Option Nat) (synthDef : SynthDef)
    (synthControls : Osc.ArgStream) :
    Keeps RootRegistered (constructSynth nodeId parent synthDef synthControls) :=
  Keeps.bind (keeps_liftExcept _) fun _ => Keeps.get_bind fun _ hd => by split <;> exact hd

/-- `/node/free` refuses the root's id, so the one removal Phase B makes spares the root. -/
theorem keeps_freeNode (nodeId : NodeId) : Keeps RootRegistered (freeNode nodeId) :=
  Keeps.get_bind fun d hd => by
    split_ifs with h1 h2
    · exact hd
    · exact hd
    · rw [hd.1] at h2
      exact ⟨hd.1, (NodeMap.lookup_remove (Ne.symm h2)).trans hd.2⟩

theorem keeps_activate (node : Node) (sampleOffset : Time) :
    Keeps RootRegistered (activate node sampleOffset) :=
  Keeps.bind (keeps_updateSynth _ _) fun _ => keeps_log _

theorem keeps_synthNewB (args : Osc.ArgStream) (scheduleTime currentTime : Time) :
    Keeps RootRegistered (synthNewB args scheduleTime currentTime) := by
  unfold synthNewB
  repeat' first
    | with_reducible exact keeps_liftExcept _ | with_reducible exact keeps_lookupSynth _
    | with_reducible exact keeps_activate _ _ | with_reducible exact Keeps.get
    | with_reducible apply Keeps.bind | intro ⟨_, _⟩ | intro _

theorem keeps_mapConnection (args : Osc.ArgStream) (numPorts : Synth → Nat) (what : String)
    (map : Synth → Nat → BitVec 32 → BitVec 32 → Synth) :
    Keeps RootRegistered (mapConnection args numPorts what map) := by
  unfold mapConnection
  repeat' first
    | with_reducible exact keeps_liftExcept _ | with_reducible exact keeps_lookupSynth _
    | with_reducible exact keeps_updateSynth _ _
    | with_reducible exact Keeps.pure _ | with_reducible exact Keeps.throw _
    | with_reducible apply Keeps.ite | with_reducible apply Keeps.bind | intro ⟨_, _⟩ | intro _

theorem keeps_processMessageB (rid : Nat) (msg : Osc.Message) (scheduleTime currentTime : Time) :
    Keeps RootRegistered (processMessageB rid msg scheduleTime currentTime) := by
  unfold processMessageB
  refine Keeps.bind (keeps_log _) fun _ => Keeps.tryCatch ?_ fun _ => keeps_replyError _ _
  repeat' first
    | with_reducible exact keeps_liftExcept _ | with_reducible exact keeps_lookupSynth _
    | with_reducible exact keeps_freeNode _ | with_reducible exact keeps_synthNewB _ _ _
    | with_reducible exact keeps_mapConnection _ _ _ _
    | with_reducible exact keeps_updateSynth _ _
    | with_reducible exact Keeps.pure _ | with_reducible exact Keeps.throw _
    | with_reducible exact Keeps.get
    | with_reducible apply Keeps.ite | with_reducible apply Keeps.bind | intro ⟨_, _⟩ | intro _

theorem keeps_processMessageA (rid : Nat) (msg : Osc.Message) :
    Keeps RootRegistered (processMessageA rid msg) := by
  unfold processMessageA
  refine Keeps.bind (keeps_log _) fun _ => Keeps.tryCatch ?_ fun _ =>
    Keeps.bind (keeps_replyError _ _) fun _ => Keeps.pure _
  repeat' first
    | with_reducible exact keeps_liftExcept _ | with_reducible exact keeps_lookupNode _
    | with_reducible exact keeps_synthDef _ | with_reducible exact keeps_constructGroup _ _
    | with_reducible exact keeps_constructSynth _ _ _ _ | with_reducible exact keeps_insertNode _
    | with_reducible exact Keeps.pure _ | with_reducible exact Keeps.throw _
    | with_reducible apply Keeps.ite | with_reducible apply Keeps.bind | intro ⟨_, _⟩ | intro _

/-- **The root invariant is a dispatch invariant**: Phase A only inserts, Phase B's only
removal spares the root, and the log, the channel and the definitions do not touch it. -/
theorem rootRegistered_invariant : DispatchInvariant RootRegistered :=
  ⟨keeps_processMessageA, keeps_processMessageB, fun e _ => keeps_log e, fun _ _ h => h,
    fun _ _ h => h⟩

end Root

end Dispatcher

namespace Environment

open Dispatcher

variable {α : Type}

theorem root_new {options : Options} {data : Bus → Buffer α} {env : Environment α}
    (h : Environment.new options data = .ok env) : env.dispatcher.RootRegistered := by
  obtain ⟨nodes, hins, rfl⟩ := new_ok h
  unfold NodeMap.insert at hins
  split at hins
  · cases hins; exact ⟨rfl, rfl⟩
  · cases hins

/-- **The root group stays registered.** In every state a run reaches from a constructed
engine, `m_rootNode` is still the group the constructor built, and it is the registry's
entry for id 0: no `/node/free`, and no `/group/new` or `/synth/new`, succeeding or failing,
removes or replaces it. -/
theorem root_stays_registered [Add α] [Zero α] {options : Options} {data : Bus → Buffer α}
    {env : Environment α} (h : Environment.new options data = .ok env) (inputs : List (Input α)) :
    (env.run inputs).dispatcher.rootNode = rootGroup ∧
      (env.run inputs).dispatcher.nodes.lookup 0 = some rootGroup :=
  rootRegistered_invariant.run (root_new h) inputs

theorem root_stays_registered_stereo :
    let env := init (α := Int) ⟨48000, 64, 0, 2, 1024, 16, 65536⟩ (fun _ _ => 0)
      ⟨1024, [rootGroup], List.nodup_singleton _⟩
    let inputs : List (Input Int) := [.send (.message ⟨"/node/free", [.int32 0]⟩),
      .send (.message ⟨"/group/new", [.int32 0, .int32 0, .int32 0]⟩),
      .process 0 64 (fun _ _ => 0) (fun _ _ => 0) []]
    Environment.new ⟨48000, 64, 0, 2, 1024, 16, 65536⟩ (fun _ _ => 0) = .ok env ∧
      (env.run inputs).dispatcher.rootNode = rootGroup ∧
      (env.run inputs).dispatcher.nodes.lookup 0 = some rootGroup :=
  have h : Environment.new (α := Int) ⟨48000, 64, 0, 2, 1024, 16, 65536⟩ (fun _ _ => 0) =
      .ok (init ⟨48000, 64, 0, 2, 1024, 16, 65536⟩ (fun _ _ => 0)
        ⟨1024, [rootGroup], List.nodup_singleton _⟩) := rfl
  ⟨h, root_stays_registered h _⟩

end Environment

end Methcla

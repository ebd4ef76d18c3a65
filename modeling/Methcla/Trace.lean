import Methcla.Invariant
/-!
What dispatch writes to the trace (`Engine.cpp`: the two `processMessage` overloads).

A Phase-A entry logs itself and nothing more, however it ends (`processMessageA_trace`). A
Phase-B entry logs itself, and its `/synth/new` branch logs at most one event more: the
activation of the synth registered under the node id the message names
(`processMessageB_trace`). Everything else dispatch calls leaves the trace alone. The results
about the trace over whole runs are built on these two lemmas alone.
-/

set_option autoImplicit false

namespace Methcla

namespace Dispatcher

/-- The node id the arguments of a `/synth/new` message name to Phase B: the one after the
synth definition's name. -/
def synthNewNodeId (args : Osc.ArgStream) : Option NodeId :=
  match Osc.ArgStream.drop args with
  | .ok ((), args) =>
    match Osc.ArgStream.int32 args with
    | .ok (nodeId, _) => some nodeId
    | .error _ => none
  | .error _ => none

theorem run_log_bind {β : Type} (e : Event) (f : Unit → DispatchM β) (d : Dispatcher) :
    (log e >>= f).run d = (f ()).run { d with trace := d.trace ++ [e] } := rfl

theorem run_liftExcept_ok {β : Type} (b : β) (d : Dispatcher) :
    (liftExcept (.ok b)).run d = .ok b d := rfl

theorem run_liftExcept_error {β : Type} (e : Exception) (d : Dispatcher) :
    (liftExcept (.error e : Except Exception β)).run d = .error e d := rfl

/-- `lookupSynth` of a registered synth returns it and changes nothing. -/
theorem run_lookupSynth_of {id : NodeId} {d : Dispatcher} {node : Node} {s : Synth}
    (hl : d.nodes.lookup id = some node) (hk : node.kind = .synth s) :
    (lookupSynth id).run d = .ok (node, s) d := by
  obtain ⟨nid, inst, parent, kind⟩ := node
  subst hk
  simp only [lookupSynth, lookupNode, run_def, bind, EStateM.bind, get, getThe,
    MonadStateOf.get, EStateM.get, hl]
  rfl

/-- `lookupSynth` changes nothing; when it returns, it returns the synth registered under
the id it was given. -/
theorem run_lookupSynth (id : NodeId) (d : Dispatcher) :
    (∃ node s, d.nodes.lookup id = some node ∧ node.kind = .synth s ∧
      (lookupSynth id).run d = .ok (node, s) d) ∨ ∃ e, (lookupSynth id).run d = .error e d := by
  rcases h : d.nodes.lookup id with _ | ⟨nid, inst, parent, _ | s⟩
  · exact .inr ⟨_, by simp only [lookupSynth, lookupNode, run_def, bind, EStateM.bind, get,
      getThe, MonadStateOf.get, EStateM.get, h]; rfl⟩
  · exact .inr ⟨_, by simp only [lookupSynth, lookupNode, run_def, bind, EStateM.bind, get,
      getThe, MonadStateOf.get, EStateM.get, h]; rfl⟩
  · exact .inl ⟨_, s, rfl, rfl, run_lookupSynth_of h rfl⟩

/-! ## Code that writes only the registry, the channel, the instance counter and the tree -/

/-- A property of the dispatcher that does not read the registry, the worker channel, the
instance counter or the tree: the fields the code below an entry's logging writes. -/
def Blind (Q : Dispatcher → Prop) : Prop :=
  ∀ d nodes channel nextInst tree, Q d →
    Q { d with nodes := nodes, channel := channel, nextInst := nextInst, tree := tree }

section Silent

variable {Q : Dispatcher → Prop} {β : Type}

theorem blind_liftExcept (x : Except Exception β) : Keeps Q (liftExcept x) := by
  cases x
  · exact Keeps.throw _
  · exact Keeps.pure _

theorem blind_synthDef (uri : String) : Keeps Q (synthDef uri) :=
  Keeps.get_bind fun _ hd => by split <;> exact hd

theorem blind_lookupNode (id : NodeId) : Keeps Q (lookupNode id) :=
  Keeps.get_bind fun _ hd => by split <;> exact hd

theorem blind_lookupSynth (id : NodeId) : Keeps Q (lookupSynth id) :=
  Keeps.bind (blind_lookupNode id) fun _ => by
    split
    · exact Keeps.pure _
    · exact Keeps.throw _

variable (hQ : Blind Q)
include hQ

theorem blind_replyError (rid : BitVec 32) (msg : String) : Keeps Q (replyError rid msg) :=
  Keeps.get_bind fun _ hd => by split <;> first | exact hd | exact hQ _ _ _ _ _ hd

theorem blind_insertNode (node : Node) : Keeps Q (insertNode node) :=
  Keeps.get_bind fun _ hd => by split <;> first | exact hd | exact hQ _ _ _ _ _ hd

theorem blind_updateSynth (id : NodeId) (f : Synth → Synth) : Keeps Q (updateSynth id f) :=
  Keeps.modify fun _ hd => hQ _ _ _ _ _ hd

theorem blind_constructGroup (nodeId : NodeId) (parent : Option Nat) :
    Keeps Q (constructGroup nodeId parent) :=
  Keeps.modifyGet fun _ hd => hQ _ _ _ _ _ hd

theorem blind_constructSynth (nodeId : NodeId) (parent : Option Nat) (synthDef : SynthDef)
    (synthControls : Osc.ArgStream) : Keeps Q (constructSynth nodeId parent synthDef synthControls) :=
  Keeps.bind (blind_liftExcept _) fun _ => Keeps.get_bind fun _ hd => by
    split <;> first | exact hd | exact hQ _ _ _ _ _ hd

theorem blind_freeNode (nodeId : NodeId) : Keeps Q (freeNode nodeId) :=
  Keeps.get_bind fun _ hd => by split_ifs <;> first | exact hd | exact hQ _ _ _ _ _ hd

theorem blind_mapConnection (args : Osc.ArgStream) (numPorts : Synth → Nat) (what : String)
    (map : Synth → Nat → BitVec 32 → BitVec 32 → Synth) :
    Keeps Q (mapConnection args numPorts what map) := by
  unfold mapConnection
  repeat' first
    | with_reducible exact blind_liftExcept _ | with_reducible exact blind_lookupSynth _
    | with_reducible exact blind_updateSynth hQ _ _
    | with_reducible exact Keeps.pure _ | with_reducible exact Keeps.throw _
    | with_reducible apply Keeps.ite | with_reducible apply Keeps.bind | intro ⟨_, _⟩ | intro _

end Silent

/-! ## One entry -/

/-- **A Phase-A entry logs itself, and writes nothing else but the registry, the channel, the
instance counter and the tree**, however it ends. -/
theorem processMessageA_blind {Q : Dispatcher → Prop} (hQ : Blind Q) (rid : Nat) (msg : Osc.Message)
    (d : Dispatcher) (h : Q { d with trace := d.trace ++ [.phaseA rid msg] }) :
    Q (endState ((processMessageA rid msg).run d)) := by
  rw [processMessageA, run_log_bind]
  refine (?_ : Keeps Q _) _ h
  refine Keeps.tryCatch ?_ fun _ => Keeps.bind (blind_replyError hQ _ _) fun _ => Keeps.pure _
  repeat' first
    | with_reducible exact blind_liftExcept _ | with_reducible exact blind_lookupNode _
    | with_reducible exact blind_synthDef _ | with_reducible exact blind_constructGroup hQ _ _
    | with_reducible exact blind_constructSynth hQ _ _ _ _ | with_reducible exact blind_insertNode hQ _
    | with_reducible exact Keeps.pure _ | with_reducible exact Keeps.throw _
    | with_reducible apply Keeps.ite | with_reducible apply Keeps.bind | intro ⟨_, _⟩ | intro _

/-- **A Phase-A entry logs itself and nothing more**, however it ends. -/
theorem processMessageA_trace (rid : Nat) (msg : Osc.Message) (d : Dispatcher) :
    (endState ((processMessageA rid msg).run d)).trace = d.trace ++ [.phaseA rid msg] :=
  processMessageA_blind (Q := fun d' => d'.trace = d.trace ++ [.phaseA rid msg])
    (fun _ _ _ _ _ h => h) rid msg d rfl

/-- **What Phase B's `/synth/new` branch does**: it throws having changed nothing, or it
activates the synth registered under the node id its arguments name, and logs that. -/
theorem synthNewB_run (args : Osc.ArgStream) (scheduleTime currentTime : Time) (d : Dispatcher) :
    (∃ e, (synthNewB args scheduleTime currentTime).run d = .error e d) ∨
      ∃ node s, synthNewNodeId args = some node.id ∧ d.nodes.lookup node.id = some node ∧
        node.kind = .synth s ∧
        (synthNewB args scheduleTime currentTime).run d = .ok () { d with
          nodes := d.nodes.updateSynth node.id (·.activate ((scheduleTime - currentTime) * d.sampleRate))
          trace := d.trace ++ [.activate node.id node.inst ((scheduleTime - currentTime) * d.sampleRate)] } := by
  unfold synthNewB
  rcases h1 : Osc.ArgStream.drop args with e | ⟨⟨⟩, args'⟩
  · exact .inl ⟨e, by rw [run_bind_error (run_liftExcept_error e d)]⟩
  rw [run_bind_ok (run_liftExcept_ok _ d)]
  dsimp only
  rcases h2 : Osc.ArgStream.int32 args' with e | ⟨nodeId, rest⟩
  · exact .inl ⟨e, by rw [run_bind_error (run_liftExcept_error e d)]⟩
  rw [run_bind_ok (run_liftExcept_ok _ d)]
  dsimp only
  rcases run_lookupSynth nodeId d with ⟨node, s, hl, hk, h3⟩ | ⟨e, h3⟩
  · obtain rfl := NodeMap.lookup_id hl
    refine .inr ⟨node, s, by simp [synthNewNodeId, h1, h2], hl, hk, ?_⟩
    rw [run_bind_ok h3]
    rfl
  · exact .inl ⟨e, by rw [run_bind_error h3]⟩

/-- **Phase B's `/synth/new` branch on a registered synth** activates it at its offset into
the block and logs that. -/
theorem synthNewB_of_lookup {args : Osc.ArgStream} {scheduleTime currentTime : Time}
    {d : Dispatcher} {node : Node} {s : Synth} (hid : synthNewNodeId args = some node.id)
    (hl : d.nodes.lookup node.id = some node) (hk : node.kind = .synth s) :
    (synthNewB args scheduleTime currentTime).run d = .ok () { d with
      nodes := d.nodes.updateSynth node.id (·.activate ((scheduleTime - currentTime) * d.sampleRate))
      trace := d.trace ++ [.activate node.id node.inst ((scheduleTime - currentTime) * d.sampleRate)] } := by
  unfold synthNewNodeId at hid
  unfold synthNewB
  rcases h1 : Osc.ArgStream.drop args with e | ⟨⟨⟩, args'⟩ <;> rw [h1] at hid
  · cases hid
  rw [run_bind_ok (run_liftExcept_ok _ d)]
  dsimp only at hid ⊢
  rcases h2 : Osc.ArgStream.int32 args' with e | ⟨nodeId, rest⟩ <;> rw [h2] at hid
  · cases hid
  obtain rfl : nodeId = node.id := Option.some.inj hid
  rw [run_bind_ok (run_liftExcept_ok _ d)]
  dsimp only
  rw [run_bind_ok (run_lookupSynth_of hl hk)]
  rfl

/-- **Phase B of a `/synth/new` naming a registered synth** logs its entry and activates that
synth. -/
theorem processMessageB_synthNew {rid : Nat} {msg : Osc.Message} {scheduleTime currentTime : Time}
    {d : Dispatcher} {node : Node} {s : Synth} (hA : msg.address = "/synth/new")
    (hid : synthNewNodeId msg.args = some node.id) (hl : d.nodes.lookup node.id = some node)
    (hk : node.kind = .synth s) :
    (processMessageB rid msg scheduleTime currentTime).run d = .ok () { d with
      nodes := d.nodes.updateSynth node.id (·.activate ((scheduleTime - currentTime) * d.sampleRate))
      trace := d.trace ++ [.phaseB rid msg scheduleTime,
        .activate node.id node.inst ((scheduleTime - currentTime) * d.sampleRate)] } := by
  rw [processMessageB, run_log_bind]
  dsimp only
  rw [if_pos hA]
  rw [run_tryCatch_ok (synthNewB_of_lookup (d := { d with trace := d.trace ++ [.phaseB rid msg scheduleTime] }) hid hl hk)]
  simp

/-- **A Phase-B entry logs itself**, and then either writes nothing else but the registry, the
channel, the instance counter and the tree, or is a `/synth/new` that activates the synth registered
under the id it names and logs that. -/
theorem processMessageB_cases (rid : Nat) (msg : Osc.Message) (scheduleTime currentTime : Time)
    (d : Dispatcher) :
    (∀ Q, Blind Q → Q { d with trace := d.trace ++ [.phaseB rid msg scheduleTime] } →
      Q (endState ((processMessageB rid msg scheduleTime currentTime).run d))) ∨
      ∃ node s, msg.address = "/synth/new" ∧ synthNewNodeId msg.args = some node.id ∧
        d.nodes.lookup node.id = some node ∧ node.kind = .synth s ∧
        (processMessageB rid msg scheduleTime currentTime).run d = .ok () { d with
          nodes := d.nodes.updateSynth node.id (·.activate ((scheduleTime - currentTime) * d.sampleRate))
          trace := d.trace ++ [.phaseB rid msg scheduleTime,
            .activate node.id node.inst ((scheduleTime - currentTime) * d.sampleRate)] } := by
  by_cases hA : msg.address = "/synth/new"
  · rcases synthNewB_run msg.args scheduleTime currentTime
        { d with trace := d.trace ++ [.phaseB rid msg scheduleTime] } with ⟨e, h⟩ | ⟨node, s, hid, hl, hk, -⟩
    · refine .inl fun Q hQ hq => ?_
      rw [processMessageB, run_log_bind]
      dsimp only
      rw [if_pos hA, run_tryCatch_error h]
      exact blind_replyError hQ _ _ _ hq
    · exact .inr ⟨node, s, hA, hid, hl, hk, processMessageB_synthNew hA hid hl hk⟩
  · refine .inl fun Q hQ hq => ?_
    rw [processMessageB, run_log_bind]
    dsimp only
    rw [if_neg hA]
    refine (?_ : Keeps Q _) _ hq
    refine Keeps.tryCatch ?_ fun _ => blind_replyError hQ _ _
    repeat' first
      | with_reducible exact blind_liftExcept _ | with_reducible exact blind_lookupSynth _
      | with_reducible exact blind_freeNode hQ _ | with_reducible exact blind_mapConnection hQ _ _ _ _
      | with_reducible exact blind_updateSynth hQ _ _
      | with_reducible exact Keeps.pure _ | with_reducible exact Keeps.throw _
      | with_reducible apply Keeps.ite | with_reducible apply Keeps.bind | intro ⟨_, _⟩ | intro _

/-- **A Phase-B entry logs itself**, and at most one event more: the activation of the synth
registered under the id a `/synth/new` message names. -/
theorem processMessageB_trace (rid : Nat) (msg : Osc.Message) (scheduleTime currentTime : Time)
    (d : Dispatcher) :
    (endState ((processMessageB rid msg scheduleTime currentTime).run d)).trace =
        d.trace ++ [.phaseB rid msg scheduleTime] ∨
      ∃ node : Node, msg.address = "/synth/new" ∧ synthNewNodeId msg.args = some node.id ∧
        (endState ((processMessageB rid msg scheduleTime currentTime).run d)).trace =
          d.trace ++ [.phaseB rid msg scheduleTime,
            .activate node.id node.inst ((scheduleTime - currentTime) * d.sampleRate)] := by
  rcases processMessageB_cases rid msg scheduleTime currentTime d with h | ⟨node, _, hA, hid, -, -, h⟩
  · exact .inl (h (fun d' => d'.trace = d.trace ++ [.phaseB rid msg scheduleTime]) (fun _ _ _ _ _ h => h) rfl)
  · exact .inr ⟨node, hA, hid, by rw [h]; rfl⟩

/-- **The trace only grows.** -/
theorem traceGrows_invariant (T : List Event) : DispatchInvariant (fun d => T <+: d.trace) where
  messageA rid msg d h := by
    rw [processMessageA_trace]
    exact h.trans (List.prefix_append _ _)
  messageB rid msg scheduleTime currentTime d h := by
    rcases processMessageB_trace rid msg scheduleTime currentTime d with h' | ⟨_, _, _, h'⟩ <;>
      rw [h'] <;> exact h.trans (List.prefix_append _ _)
  log _ _ d h := h.trans (List.prefix_append d.trace _)
  channel _ _ h := h
  synthDefs _ _ h := h

/-- **Dispatch never changes the sample rate.** -/
theorem sampleRate_invariant (r : Time) : DispatchInvariant (fun d => d.sampleRate = r) where
  messageA rid msg d h :=
    processMessageA_blind (Q := fun d => d.sampleRate = r) (fun _ _ _ _ _ h => h) rid msg d h
  messageB rid msg scheduleTime currentTime d h := by
    rcases processMessageB_cases rid msg scheduleTime currentTime d with h' | ⟨_, _, _, _, _, _, h'⟩
    · exact h' (fun d => d.sampleRate = r) (fun _ _ _ _ _ h => h) h
    · rw [h']
      exact h
  log _ _ _ h := h
  channel _ _ h := h
  synthDefs _ _ h := h

end Dispatcher

end Methcla

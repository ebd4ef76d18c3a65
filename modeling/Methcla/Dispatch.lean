import Methcla.Environment
/-!
The two-phase dispatcher (`Engine.cpp`: the two `processMessage` overloads and the two
`processBundle` overloads).

Phase A (`processMessage(msg)` returning `bool`) builds the nodes a request creates and says
whether the request needs Phase B. Phase B (`processMessage(msg, scheduleTime,
currentTime)`) activates, frees, sets and maps. Each wraps its body in a `try` whose
handlers report the exception with `replyError`; Phase A then returns `true` whatever
happened, like a message it does not know.

The bundle traversals are the recursion `processBundle` runs over a packet tree. The main
results here say what that recursion amounts to: Phase A is the flat loop that calls
Phase A on every message of the tree in depth-first order and or-s the answers without
short-circuiting (`processPacketA_eq`), and Phase B is the flat loop over the same
messages (`processPacketB_eq`). Both are exact equations of programs: they hold on every
run, the runs where a call throws included.
-/

set_option autoImplicit false

namespace Methcla

namespace Dispatcher

/-- `synth->activate(sampleOffset)` on the node `lookupSynth` returned. -/
def activate (node : Node) (sampleOffset : Time) : DispatchM Unit := do
  updateSynth node.id (·.activate sampleOffset)
  log (.activate node.id node.inst sampleOffset)

/-- `(index < 0) || (index >= (int32_t)n)`. -/
def indexOutOfRange (index : BitVec 32) (n : Nat) : Bool :=
  index.toInt < 0 || (BitVec.ofNat 32 n).toInt ≤ index.toInt

/-- The body the `/synth/map/input` and `/synth/map/output` branches share: read node,
index, bus and flags, look the synth up, check the index against `numPorts`, and map. -/
def mapConnection (args : Osc.ArgStream) (numPorts : Synth → Nat) (what : String)
    (map : Synth → Nat → BitVec 32 → BitVec 32 → Synth) : DispatchM Unit := do
  let (nodeId, args) ← liftExcept args.int32
  let (index, args) ← liftExcept args.int32
  let (busId, args) ← liftExcept args.int32
  let (flags, _) ← liftExcept args.int32
  let (_, synth) ← lookupSynth nodeId
  if indexOutOfRange index (numPorts synth) then throw (.runtimeError what)
  updateSynth nodeId (map · index.toNat busId flags)

/-- The `/synth/new` branch of Phase B: skip the definition's name, read the node id, look
the synth up, activate it at its offset into the block. -/
def synthNewB (args : Osc.ArgStream) (scheduleTime currentTime : Time) : DispatchM Unit := do
  let ((), args) ← liftExcept args.drop
  let (nodeId, _) ← liftExcept args.int32
  let (node, _) ← lookupSynth nodeId
  let sampleOffset := (scheduleTime - currentTime) * (← get).sampleRate
  activate node sampleOffset

/-- The `/node/free` branch after its argument is read: refuse an unknown id and the root's
id, else drop the node. -/
def freeNode (nodeId : NodeId) : DispatchM Unit := do
  let d ← get
  if !d.nodes.contains nodeId then throw (.error .nodeIdError)
  else if nodeId = d.rootNode.id then throw (.error .nodeIdError)
  modify (removeNode nodeId)

/-! ## Phase A -/

/-- Phase A `processMessage(msg)` for request `rid`. -/
def processMessageA (rid : Nat) (msg : Osc.Message) : DispatchM Bool := do
  log (.phaseA rid msg)
  let args : Osc.ArgStream := msg.args
  tryCatch
    (if msg.address = "/group/new" then do
      let (nodeId, args) ← liftExcept args.int32
      let (targetId, args) ← liftExcept args.int32
      let _ ← liftExcept args.drop
      let targetNode ← lookupNode targetId
      let group ← constructGroup nodeId (targetGroup targetNode)
      insertNode group
      pure false
    else if msg.address = "/synth/new" then do
      let (defName, args) ← liftExcept args.string
      let (nodeId, args) ← liftExcept args.int32
      let (targetId, args) ← liftExcept args.int32
      let ((), args) ← liftExcept args.drop
      let synthDef ← synthDef defName
      let (synthControls, args) ← if args.atEnd then pure ([], args) else liftExcept args.array
      let _ ← if args.atEnd then pure ([], args) else liftExcept args.array
      let targetNode ← lookupNode targetId
      let synth ← constructSynth nodeId (targetGroup targetNode) synthDef synthControls
      insertNode synth
      pure true
    else pure true)
    (fun e => do
      replyError kMethcla_Notification e.what
      pure true)

mutual
/-- Phase A on one element of a bundle: `p.isBundle() ? processBundle(p) : processMessage(p)`. -/
def processPacketA (rid : Nat) : Osc.Packet → DispatchM Bool
  | .message msg => processMessageA rid msg
  | .bundle _ elems => processElemsA rid false elems

/-- The loop of Phase A `processBundle(bundle)`, from `needsScheduling`:
`needsScheduling |= ...` on every element, in order. -/
def processElemsA (rid : Nat) (needsScheduling : Bool) : List Osc.Packet → DispatchM Bool
  | [] => pure needsScheduling
  | p :: ps => do
    let r ← processPacketA rid p
    processElemsA rid (needsScheduling || r) ps
end

/-! ## Phase B -/

/-- Phase B `processMessage(msg, scheduleTime, currentTime)` for request `rid`. -/
def processMessageB (rid : Nat) (msg : Osc.Message) (scheduleTime currentTime : Time) :
    DispatchM Unit := do
  log (.phaseB rid msg scheduleTime)
  let args : Osc.ArgStream := msg.args
  tryCatch
    (if msg.address = "/synth/new" then synthNewB args scheduleTime currentTime
    else if msg.address = "/node/free" then do
      let (nodeId, _) ← liftExcept args.int32
      freeNode nodeId
    else if msg.address = "/node/set" then do
      let (nodeId, args) ← liftExcept args.int32
      let (index, args) ← liftExcept args.int32
      let (value, _) ← liftExcept args.float32
      let (_, synth) ← lookupSynth nodeId
      if indexOutOfRange index synth.synthDef.numControlInputs then
        throw (.runtimeError "Control input index out of range")
      updateSynth nodeId (·.setControlInput index.toNat value)
    else if msg.address = "/synth/map/input" then
      mapConnection args (·.synthDef.numAudioInputs) "Synth input index out of range"
        Synth.mapInput
    else if msg.address = "/synth/map/output" then
      mapConnection args (·.synthDef.numAudioOutputs) "Synth output index out of range"
        Synth.mapOutput
    else pure ())
    (fun e => replyError kMethcla_Notification e.what)

mutual
/-- Phase B on one element of a bundle; a nested bundle is flattened under the outer time. -/
def processPacketB (rid : Nat) (scheduleTime currentTime : Time) : Osc.Packet → DispatchM Unit
  | .message msg => processMessageB rid msg scheduleTime currentTime
  | .bundle _ elems => processElemsB rid scheduleTime currentTime elems

/-- The loop of Phase B `processBundle(bundle, scheduleTime, currentTime)`. -/
def processElemsB (rid : Nat) (scheduleTime currentTime : Time) : List Osc.Packet → DispatchM Unit
  | [] => pure ()
  | p :: ps => do
    processPacketB rid scheduleTime currentTime p
    processElemsB rid scheduleTime currentTime ps
end

/-! ## The traversals are flat loops -/

/-- Phase A on each message in turn, or-ing every answer into `acc`. -/
def processMessagesA (rid : Nat) (acc : Bool) : List Osc.Message → DispatchM Bool
  | [] => pure acc
  | msg :: msgs => do
    let r ← processMessageA rid msg
    processMessagesA rid (acc || r) msgs

theorem processMessagesA_acc (rid : Nat) (acc : Bool) (msgs : List Osc.Message) :
    processMessagesA rid acc msgs = (fun r => acc || r) <$> processMessagesA rid false msgs := by
  induction msgs generalizing acc with
  | nil => simp [processMessagesA]
  | cons msg msgs ih =>
    simp only [processMessagesA, map_bind]
    congr 1; funext r
    rw [ih (acc || r), ih (false || r), Functor.map_map]
    simp only [Function.comp_def, Bool.false_or, Bool.or_assoc]

theorem processMessagesA_append (rid : Nat) (acc : Bool) (xs ys : List Osc.Message) :
    processMessagesA rid acc (xs ++ ys) =
      processMessagesA rid acc xs >>= fun r => processMessagesA rid r ys := by
  induction xs generalizing acc with
  | nil => simp [processMessagesA]
  | cons msg msgs ih => simp [processMessagesA, ih]

mutual
/-- **Phase A visits the whole tree.** The Phase-A traversal of a packet is the flat loop
over its messages in depth-first document order: every message is passed to Phase A once,
also after an earlier one answered `true`, and the answer is the `or` of all of theirs. -/
theorem processPacketA_eq (rid : Nat) :
    ∀ p : Osc.Packet, processPacketA rid p = processMessagesA rid false p.messages
  | .message msg => by simp [processPacketA, processMessagesA]
  | .bundle _ elems => by rw [processPacketA, processElemsA_eq]; rfl

theorem processElemsA_eq (rid : Nat) : ∀ (acc : Bool) (elems : List Osc.Packet),
    processElemsA rid acc elems = processMessagesA rid acc (Osc.Packet.messagesOf elems)
  | acc, [] => rfl
  | acc, p :: ps => by
    rw [processElemsA, Osc.Packet.messagesOf_cons, processMessagesA_append, processPacketA_eq,
      processMessagesA_acc rid acc, bind_map_left]
    simp only [processElemsA_eq rid _ ps]
end

/-- Phase A's handlers call `replyError`, which allocates from the arena and lets
`std::bad_alloc` through. With an arena too small for the error reply, a first message that
fails ends the traversal: the second message of the bundle is never passed to Phase A. -/
theorem processPacketA_stops_when_replyError_throws :
    ∃ d, (processPacketA 0 (.bundle 1 [
        .message ⟨"/synth/new", [.string "sine", .int32 1, .int32 0, .int32 0]⟩,
        .message ⟨"/group/new", [.int32 2, .int32 0, .int32 0]⟩])).run
        (Environment.init (α := Int) ⟨48000, 64, 0, 0, 16, 0, 16⟩ (fun _ _ => 0)
          ⟨16, [Environment.rootGroup], List.nodup_singleton _⟩).dispatcher = .error .badAlloc d ∧
      d.trace = [.phaseA 0 ⟨"/synth/new", [.string "sine", .int32 1, .int32 0, .int32 0]⟩] :=
  ⟨_, by with_unfolding_all rfl, by with_unfolding_all decide⟩

mutual
/-- **Phase B visits the same messages in the same order.** -/
theorem processPacketB_eq (rid : Nat) (scheduleTime currentTime : Time) :
    ∀ p : Osc.Packet, processPacketB rid scheduleTime currentTime p =
      p.messages.forM (processMessageB rid · scheduleTime currentTime)
  | .message msg => by simp [processPacketB]
  | .bundle _ elems => by rw [processPacketB, processElemsB_eq]; rfl

theorem processElemsB_eq (rid : Nat) (scheduleTime currentTime : Time) :
    ∀ elems : List Osc.Packet, processElemsB rid scheduleTime currentTime elems =
      (Osc.Packet.messagesOf elems).forM (processMessageB rid · scheduleTime currentTime)
  | [] => rfl
  | p :: ps => by
    rw [processElemsB, Osc.Packet.messagesOf_cons, List.forM_append,
      processPacketB_eq rid scheduleTime currentTime p, processElemsB_eq rid scheduleTime currentTime ps]
end

end Dispatcher

end Methcla

import Methcla.Routing
/-!
What Phase B does to the registry (`Engine.cpp`: `processMessage(msg, scheduleTime,
currentTime)`), and what it does with a message it refuses.

Every branch reads its arguments, looks its node up and checks it before it changes
anything, and then changes the registry once. So each branch ends in one of two ways
(`processMessageB_nodeSet` and its siblings, one lemma per branch): it throws having changed
nothing, and the handler's `replyError` is all that follows; or it makes the one change its
message asks for.

Two results rest on these lemmas. A message the spec counts as a client error (an
unregistered node, a group where a synth is needed, the root for `/node/free`, an index
out of range) is refused that way: Phase B logs its entry and calls `replyError` once
(`client_error_replies_once`). And a port is written only inside its range
(`port_writes_in_range`): the guard `(index < 0) || (index >= (int32_t)n)` casts the count
to 32 bits, which wraps for counts of `2^31` and more, yet it lets no index outside
`[0, n)` through (`indexOutOfRange_eq_false`); it only refuses some inside.
-/

set_option autoImplicit false

namespace Methcla

namespace NodeMap

/-- The synth registered under `id`: `none` for no node, and for a group. -/
def synthAt (m : NodeMap) (id : NodeId) : Option Synth :=
  match m.lookup id with
  | some ⟨_, _, _, .synth s⟩ => some s
  | _ => none

theorem synthAt_eq_some {m : NodeMap} {id : NodeId} {s : Synth} :
    m.synthAt id = some s ↔ ∃ node, m.lookup id = some node ∧ node.kind = .synth s := by
  unfold synthAt
  rcases m.lookup id with _ | ⟨_, _, _, _ | s'⟩ <;> simp [eq_comm]

theorem contains_eq_false {m : NodeMap} {id : NodeId} (h : m.lookup id = none) :
    m.contains id = false := by
  simpa [lookup, contains] using h

end NodeMap

/-- A write to a synth port that Phase B makes: `synth->controlInput(index) = value`,
`synth->mapInput(index, busId, flags)` or `synth->mapOutput(index, busId, flags)`, with the
`int32_t` index its message carries. -/
inductive PortWrite where
  | controlInput (index value : BitVec 32)
  | mapInput (index busId flags : BitVec 32)
  | mapOutput (index busId flags : BitVec 32)

namespace PortWrite

/-- The message that asks for the write. -/
def address : PortWrite → String
  | .controlInput .. => "/node/set"
  | .mapInput .. => "/synth/map/input"
  | .mapOutput .. => "/synth/map/output"

/-- The index the message names. -/
def index : PortWrite → BitVec 32
  | .controlInput i _ | .mapInput i _ _ | .mapOutput i _ _ => i

/-- How many ports of that kind the synth has: `numControlInputs()`, `numAudioInputs()` or
`numAudioOutputs()`. -/
def count (s : Synth) : PortWrite → Nat
  | .controlInput .. => s.synthDef.numControlInputs
  | .mapInput .. => s.synthDef.numAudioInputs
  | .mapOutput .. => s.synthDef.numAudioOutputs

/-- The write, on the synth: the index converted to `size_t`. -/
def apply : PortWrite → Synth → Synth
  | .controlInput i v, s => s.setControlInput i.toNat v
  | .mapInput i b f, s => s.mapInput i.toNat b f
  | .mapOutput i b f, s => s.mapOutput i.toNat b f

end PortWrite

namespace Dispatcher

/-! ## The index guard -/

/-- **The guard lets no index outside `[0, n)` through**, whatever the count: a count of
`2^31` or more wraps to a negative or smaller `int32_t`, which only refuses more. -/
theorem indexOutOfRange_eq_false {index : BitVec 32} {n : Nat}
    (h : indexOutOfRange index n = false) : 0 ≤ index.toInt ∧ index.toInt < n := by
  simp only [indexOutOfRange, Bool.or_eq_false_iff, decide_eq_false_iff_not, not_lt,
    BitVec.toInt_eq_toNat_cond, BitVec.toNat_ofNat] at h ⊢
  split_ifs at h ⊢ <;> omega

/-- Every index outside `[0, n)` is refused. -/
theorem indexOutOfRange_of_not_mem {index : BitVec 32} {n : Nat}
    (h : ¬ (0 ≤ index.toInt ∧ index.toInt < n)) : indexOutOfRange index n = true := by
  simp only [indexOutOfRange, Bool.or_eq_true, decide_eq_true_eq,
    BitVec.toInt_eq_toNat_cond, BitVec.toNat_ofNat] at h ⊢
  split_ifs at h ⊢ <;> omega

/-! ## Branch by branch -/

@[simp] theorem liftExcept_ok_bind {β γ : Type} (b : β) (f : β → DispatchM γ) :
    liftExcept (.ok b) >>= f = f b := rfl

/-- Phase B logged its entry, and then did nothing but call `replyError` once. -/
def RepliesError (rid : Nat) (msg : Osc.Message) (scheduleTime currentTime : Time)
    (d : Dispatcher) : Prop :=
  ∃ e : Exception, (processMessageB rid msg scheduleTime currentTime).run d =
    (replyError kMethcla_Notification e.what).run (d.record (.phaseB rid msg scheduleTime))

variable {rid : Nat} {msg : Osc.Message} {scheduleTime currentTime : Time}

/-- A `try` block whose body throws having changed nothing goes on with the handler from the
state it started in; one whose body returns is what the block did. -/
theorem run_tryCatch_cases {x : DispatchM Unit} {handler : Exception → DispatchM Unit}
    {P : Dispatcher → Prop} {d : Dispatcher}
    (hx : (∃ e, x.run d = .error e d) ∨ ∃ d', x.run d = .ok () d' ∧ P d') :
    (∃ e, (tryCatch x handler).run d = (handler e).run d) ∨
      ∃ d', (tryCatch x handler).run d = .ok () d' ∧ P d' := by
  rcases hx with ⟨e, he⟩ | ⟨d', hd', hP⟩
  · exact .inl ⟨e, run_tryCatch_error he _⟩
  · exact .inr ⟨d', run_tryCatch_ok hd' _, hP⟩

/-- A body that starts by reading an argument throws having changed nothing when the read
fails, and otherwise goes on with what it read. -/
theorem run_liftExcept_bind_cases {β : Type} {x : Except Exception β} {f : β → DispatchM Unit}
    {P : Dispatcher → Prop} {d : Dispatcher}
    (hf : ∀ b, x = .ok b → (∃ e, (f b).run d = .error e d) ∨ ∃ d', (f b).run d = .ok () d' ∧ P d') :
    (∃ e, (liftExcept x >>= f).run d = .error e d) ∨
      ∃ d', (liftExcept x >>= f).run d = .ok () d' ∧ P d' := by
  cases x with
  | error e => exact .inl ⟨e, rfl⟩
  | ok b => exact hf b rfl

/-- **The body `/synth/map/input` and `/synth/map/output` share** throws having changed
nothing, or maps the port its arguments name, whose index passed the guard. -/
theorem run_mapConnection (args : Osc.ArgStream) (numPorts : Synth → Nat) (what : String)
    (map : Synth → Nat → BitVec 32 → BitVec 32 → Synth) (d : Dispatcher) :
    (∃ e, (mapConnection args numPorts what map).run d = .error e d) ∨
      ∃ d', (mapConnection args numPorts what map).run d = .ok () d' ∧
        ∃ id rest index rest' busId flags s, Osc.ArgStream.int32 args = .ok (id, rest) ∧
          Osc.ArgStream.int32 rest = .ok (index, rest') ∧ d.nodes.synthAt id = some s ∧
          indexOutOfRange index (numPorts s) = false ∧
          d' = { d with nodes := d.nodes.updateSynth id (map · index.toNat busId flags) } := by
  unfold mapConnection
  refine run_liftExcept_bind_cases fun ⟨id, rest⟩ h1 => ?_
  refine run_liftExcept_bind_cases fun ⟨index, rest'⟩ h2 => ?_
  refine run_liftExcept_bind_cases fun ⟨busId, _⟩ _ => ?_
  refine run_liftExcept_bind_cases fun ⟨flags, _⟩ _ => ?_
  dsimp only
  rcases run_lookupSynth id d with ⟨node, s, hl, hk, h5⟩ | ⟨e, h5⟩
  · rw [run_bind_ok h5]
    cases hg : indexOutOfRange index (numPorts s)
    · exact .inr ⟨_, rfl, id, rest, index, rest', busId, flags, s, h1, h2,
        NodeMap.synthAt_eq_some.2 ⟨node, hl, hk⟩, hg, rfl⟩
    · exact .inl ⟨_, rfl⟩
  · exact .inl ⟨e, run_bind_error h5 _⟩

theorem run_get_bind {β : Type} (f : Dispatcher → DispatchM β) (d : Dispatcher) :
    (get >>= f).run d = (f d).run d := rfl

/-- `freeNode` throws having changed nothing, or drops a registered node other than the root. -/
theorem run_freeNode (id : NodeId) (d : Dispatcher) :
    (∃ e, (freeNode id).run d = .error e d) ∨
      d.nodes.contains id ∧ id ≠ d.rootNode.id ∧ (freeNode id).run d = .ok () (removeNode id d) := by
  rw [freeNode, run_get_bind]
  by_cases hc : d.nodes.contains id
  · by_cases hr : id = d.rootNode.id
    · exact .inl ⟨_, by rw [if_neg (by simp [hc]), if_pos hr]; rfl⟩
    · exact .inr ⟨hc, hr, by rw [if_neg (by simp [hc]), if_neg hr]; rfl⟩
  · exact .inl ⟨_, by rw [if_pos (by simpa using hc)]; rfl⟩

/-- **Phase B of `/synth/new`** refuses the message, or activates the synth registered under the
id it names. -/
theorem processMessageB_synthNew_cases (hA : msg.address = "/synth/new") (d : Dispatcher) :
    RepliesError rid msg scheduleTime currentTime d ∨
      ∃ d', (processMessageB rid msg scheduleTime currentTime).run d = .ok () d' ∧
        ∃ (node : Node) (s : Synth), synthNewNodeId msg.args = some node.id ∧ d.nodes.synthAt node.id = some s := by
  rw [RepliesError, processMessageB, run_bind_ok (Dispatcher.run_log _ _)]
  dsimp only
  rw [if_pos hA]
  refine run_tryCatch_cases ?_
  · rcases synthNewB_run msg.args scheduleTime currentTime (d.record (.phaseB rid msg scheduleTime))
      with h | ⟨node, s, hid, hl, hk, h⟩
    · exact .inl h
    · exact .inr ⟨_, h, node, s, hid, NodeMap.synthAt_eq_some.2 ⟨node, hl, hk⟩⟩

/-- **Phase B of `/node/free`** refuses the message, or drops the registered node other than the
root its argument names. -/
theorem processMessageB_nodeFree (hA : msg.address = "/node/free") (d : Dispatcher) :
    RepliesError rid msg scheduleTime currentTime d ∨
      ∃ d', (processMessageB rid msg scheduleTime currentTime).run d = .ok () d' ∧
        ∃ id rest, Osc.ArgStream.int32 msg.args = .ok (id, rest) ∧ d.nodes.contains id ∧
          id ≠ d.rootNode.id ∧ d' = removeNode id (d.record (.phaseB rid msg scheduleTime)) := by
  rw [RepliesError, processMessageB, run_bind_ok (Dispatcher.run_log _ _)]
  dsimp only
  rw [if_neg (by rw [hA]; decide), if_pos hA]
  refine run_tryCatch_cases (run_liftExcept_bind_cases fun ⟨id, rest⟩ h1 => ?_)
  rcases run_freeNode id (d.record (.phaseB rid msg scheduleTime)) with h | ⟨hc, hr, h⟩
  · exact .inl h
  · exact .inr ⟨_, h, id, rest, h1, hc, hr, rfl⟩

/-- **Phase B of `/node/set`** refuses the message, or writes the control it names, whose index
passed the guard. -/
theorem processMessageB_nodeSet (hA : msg.address = "/node/set") (d : Dispatcher) :
    RepliesError rid msg scheduleTime currentTime d ∨
      ∃ d', (processMessageB rid msg scheduleTime currentTime).run d = .ok () d' ∧
        ∃ id rest index rest' value s, Osc.ArgStream.int32 msg.args = .ok (id, rest) ∧
          Osc.ArgStream.int32 rest = .ok (index, rest') ∧
          (∃ rest'', Osc.ArgStream.float32 rest' = .ok (value, rest'')) ∧
          d.nodes.synthAt id = some s ∧ indexOutOfRange index s.synthDef.numControlInputs = false ∧
          d' = { d.record (.phaseB rid msg scheduleTime) with
            nodes := d.nodes.updateSynth id (·.setControlInput index.toNat value) } := by
  rw [RepliesError, processMessageB, run_bind_ok (Dispatcher.run_log _ _)]
  dsimp only
  rw [if_neg (by rw [hA]; decide), if_neg (by rw [hA]; decide), if_pos hA]
  refine run_tryCatch_cases ?_
  refine run_liftExcept_bind_cases fun ⟨id, rest⟩ h1 => ?_
  refine run_liftExcept_bind_cases fun ⟨index, rest'⟩ h2 => ?_
  refine run_liftExcept_bind_cases fun ⟨value, rest''⟩ h3 => ?_
  dsimp only
  rcases run_lookupSynth id (d.record (.phaseB rid msg scheduleTime)) with ⟨node, s, hl, hk, h4⟩ | ⟨e, h4⟩
  · rw [run_bind_ok h4]
    cases hg : indexOutOfRange index s.synthDef.numControlInputs
    · exact .inr ⟨_, rfl, id, rest, index, rest', value, s, h1, h2, ⟨rest'', h3⟩,
        NodeMap.synthAt_eq_some.2 ⟨node, hl, hk⟩, hg, rfl⟩
    · exact .inl ⟨_, rfl⟩
  · exact .inl ⟨e, run_bind_error h4 _⟩

/-- **Phase B of `/synth/map/input`** refuses the message, or maps the input it names, whose
index passed the guard. -/
theorem processMessageB_mapInput (hA : msg.address = "/synth/map/input") (d : Dispatcher) :
    RepliesError rid msg scheduleTime currentTime d ∨
      ∃ d', (processMessageB rid msg scheduleTime currentTime).run d = .ok () d' ∧
        ∃ id rest index rest' busId flags s, Osc.ArgStream.int32 msg.args = .ok (id, rest) ∧
          Osc.ArgStream.int32 rest = .ok (index, rest') ∧ d.nodes.synthAt id = some s ∧
          indexOutOfRange index s.synthDef.numAudioInputs = false ∧
          d' = { d.record (.phaseB rid msg scheduleTime) with
            nodes := d.nodes.updateSynth id (·.mapInput index.toNat busId flags) } := by
  rw [RepliesError, processMessageB, run_bind_ok (Dispatcher.run_log _ _)]
  dsimp only
  rw [if_neg (by rw [hA]; decide), if_neg (by rw [hA]; decide), if_neg (by rw [hA]; decide),
    if_pos hA]
  exact run_tryCatch_cases (run_mapConnection _ _ _ _ _)

/-- **Phase B of `/synth/map/output`** refuses the message, or maps the output it names, whose
index passed the guard. -/
theorem processMessageB_mapOutput (hA : msg.address = "/synth/map/output") (d : Dispatcher) :
    RepliesError rid msg scheduleTime currentTime d ∨
      ∃ d', (processMessageB rid msg scheduleTime currentTime).run d = .ok () d' ∧
        ∃ id rest index rest' busId flags s, Osc.ArgStream.int32 msg.args = .ok (id, rest) ∧
          Osc.ArgStream.int32 rest = .ok (index, rest') ∧ d.nodes.synthAt id = some s ∧
          indexOutOfRange index s.synthDef.numAudioOutputs = false ∧
          d' = { d.record (.phaseB rid msg scheduleTime) with
            nodes := d.nodes.updateSynth id (·.mapOutput index.toNat busId flags) } := by
  rw [RepliesError, processMessageB, run_bind_ok (Dispatcher.run_log _ _)]
  dsimp only
  rw [if_neg (by rw [hA]; decide), if_neg (by rw [hA]; decide), if_neg (by rw [hA]; decide),
    if_neg (by rw [hA]; decide), if_pos hA]
  exact run_tryCatch_cases (run_mapConnection _ _ _ _ _)

/-! ## Refused messages -/

/-- The message's first argument names no synth, or its second an index outside the range
`[0, numPorts s)` of the synth `s` it names. -/
def PortError (d : Dispatcher) (args : Osc.ArgStream) (numPorts : Synth → Nat) : Prop :=
  ∃ id rest, Osc.ArgStream.int32 args = .ok (id, rest) ∧
    (d.nodes.synthAt id = none ∨ ∃ s index rest', d.nodes.synthAt id = some s ∧
      Osc.ArgStream.int32 rest = .ok (index, rest') ∧ ¬ (0 ≤ index.toInt ∧ index.toInt < numPorts s))

/-- The Phase-B client errors of the spec's error taxonomy (§7): a `/synth/new` naming no synth,
a `/node/free` naming an unregistered node or the root, and a `/node/set`,
`/synth/map/input` or `/synth/map/output` naming no synth or an index out of range. -/
def ClientError (d : Dispatcher) (msg : Osc.Message) : Prop :=
  if msg.address = "/synth/new" then
    ∃ id, synthNewNodeId msg.args = some id ∧ d.nodes.synthAt id = none
  else if msg.address = "/node/free" then
    ∃ id rest, Osc.ArgStream.int32 msg.args = .ok (id, rest) ∧
      (d.nodes.lookup id = none ∨ id = d.rootNode.id)
  else if msg.address = "/node/set" then PortError d msg.args (·.synthDef.numControlInputs)
  else if msg.address = "/synth/map/input" then PortError d msg.args (·.synthDef.numAudioInputs)
  else if msg.address = "/synth/map/output" then PortError d msg.args (·.synthDef.numAudioOutputs)
  else False

/-- A port error never gets past the reads, the lookup and the guard. -/
theorem PortError.not_passed {d : Dispatcher} {args : Osc.ArgStream} {numPorts : Synth → Nat}
    (h : PortError d args numPorts) {id : NodeId} {index : BitVec 32} {rest rest' : Osc.ArgStream}
    {s : Synth} (h1 : Osc.ArgStream.int32 args = .ok (id, rest))
    (h2 : Osc.ArgStream.int32 rest = .ok (index, rest')) (hs : d.nodes.synthAt id = some s)
    (hg : indexOutOfRange index (numPorts s) = false) : False := by
  obtain ⟨id', rest₀, h1', hfault⟩ := h
  rw [h1] at h1'
  cases h1'
  rcases hfault with hnone | ⟨s', index', rest'', hs', h2', hout⟩
  · rw [hs] at hnone
    cases hnone
  · rw [hs] at hs'
    cases hs'
    rw [h2] at h2'
    cases h2'
    rw [indexOutOfRange_of_not_mem hout] at hg
    cases hg

/-- **A client error is refused having changed nothing, with one `replyError`.** Take any
dispatcher state and a Phase-B message that names an unregistered node, a group where it
needs a synth, the root for `/node/free`, or a control or port index outside `[0, count)`.
Phase B logs its entry and then does one thing only: its handler's `replyError`. The
registry, the tree, and every synth's controls, connections and activation are as they
were. -/
theorem client_error_replies_once (rid : Nat) (msg : Osc.Message) (scheduleTime currentTime : Time)
    (d : Dispatcher) (h : ClientError d msg) :
    ∃ e : Exception, (processMessageB rid msg scheduleTime currentTime).run d =
      (replyError kMethcla_Notification e.what).run (d.record (.phaseB rid msg scheduleTime)) := by
  unfold ClientError at h
  split_ifs at h with h1 h2 h3 h4 h5
  · obtain ⟨id, hid, hs⟩ := h
    refine (processMessageB_synthNew_cases h1 d).resolve_right ?_
    rintro ⟨_, -, node, s, hid', hs'⟩
    rw [hid, Option.some.injEq] at hid'
    rw [hid', hs'] at hs
    cases hs
  · obtain ⟨id, rest, hid, hfree⟩ := h
    refine (processMessageB_nodeFree h2 d).resolve_right ?_
    rintro ⟨_, -, id', rest', hid', hc, hr, -⟩
    rw [hid] at hid'
    cases hid'
    rcases hfree with hn | hr'
    · rw [NodeMap.contains_eq_false hn] at hc
      cases hc
    · exact hr hr'
  · exact (processMessageB_nodeSet h3 d).resolve_right
      fun ⟨_, _, _, _, _, _, _, _, h1', h2', _, hs, hg, _⟩ => h.not_passed h1' h2' hs hg
  · exact (processMessageB_mapInput h4 d).resolve_right
      fun ⟨_, _, _, _, _, _, _, _, _, h1', h2', hs, hg, _⟩ => h.not_passed h1' h2' hs hg
  · exact (processMessageB_mapOutput h5 d).resolve_right
      fun ⟨_, _, _, _, _, _, _, _, _, h1', h2', hs, hg, _⟩ => h.not_passed h1' h2' hs hg

theorem client_error_replies_once_root :
    ClientError (Environment.init (α := Int) ⟨48000, 64, 0, 0, 16, 0, 1024⟩ (fun _ _ => 0)
        ⟨16, [Environment.rootGroup], List.nodup_singleton _⟩).dispatcher ⟨"/node/free", [.int32 0]⟩ ∧
      ∃ e : Exception, (processMessageB 0 ⟨"/node/free", [.int32 0]⟩ 0 0).run
          (Environment.init (α := Int) ⟨48000, 64, 0, 0, 16, 0, 1024⟩ (fun _ _ => 0)
            ⟨16, [Environment.rootGroup], List.nodup_singleton _⟩).dispatcher =
        (replyError kMethcla_Notification e.what).run
          ((Environment.init (α := Int) ⟨48000, 64, 0, 0, 16, 0, 1024⟩ (fun _ _ => 0)
            ⟨16, [Environment.rootGroup], List.nodup_singleton _⟩).dispatcher.record
              (.phaseB 0 ⟨"/node/free", [.int32 0]⟩ 0)) :=
  have h : ClientError (Environment.init (α := Int) ⟨48000, 64, 0, 0, 16, 0, 1024⟩ (fun _ _ => 0)
      ⟨16, [Environment.rootGroup], List.nodup_singleton _⟩).dispatcher ⟨"/node/free", [.int32 0]⟩ := by
    unfold ClientError
    rw [if_neg (by decide), if_pos rfl]
    exact ⟨0, [], rfl, .inr rfl⟩
  ⟨h, client_error_replies_once 0 _ 0 0 _ h⟩

/-! ## Port writes -/

/-- **Phase B writes a port only inside its range.** For every dispatcher state and every
`/node/set`, `/synth/map/input` or `/synth/map/output` message, whatever its `int32_t` index
and whatever the synth's port count, Phase B either refuses the message, changing nothing but
its handler's `replyError`, or makes the one write the message asks for, to the synth
registered under the node id it names, at an index in `[0, count)`. The guard casts the count
to `int32_t`, which wraps for counts of `2^31` and more, and still lets no index outside the
range through. So the `BOOST_ASSERT` in `Synth::controlInput` holds on this path, and
`mapInput` and `mapOutput` get ports in range. -/
theorem port_writes_in_range (rid : Nat) (msg : Osc.Message) (scheduleTime currentTime : Time)
    (d : Dispatcher) (hA : msg.address = "/node/set" ∨ msg.address = "/synth/map/input" ∨
      msg.address = "/synth/map/output") :
    RepliesError rid msg scheduleTime currentTime d ∨
      ∃ (id : NodeId) (w : PortWrite) (s : Synth) (rest rest' : Osc.ArgStream),
        w.address = msg.address ∧ Osc.ArgStream.int32 msg.args = .ok (id, rest) ∧
        Osc.ArgStream.int32 rest = .ok (w.index, rest') ∧ d.nodes.synthAt id = some s ∧
        0 ≤ w.index.toInt ∧ w.index.toInt < w.count s ∧
        (processMessageB rid msg scheduleTime currentTime).run d =
          .ok () { d.record (.phaseB rid msg scheduleTime) with
            nodes := d.nodes.updateSynth id w.apply } := by
  rcases hA with hA | hA | hA
  · refine (processMessageB_nodeSet hA d).imp_right ?_
    rintro ⟨_, hrun, id, rest, index, rest', value, s, h1, h2, -, hs, hg, rfl⟩
    exact ⟨id, .controlInput index value, s, rest, rest', hA.symm, h1, h2, hs,
      (indexOutOfRange_eq_false hg).1, (indexOutOfRange_eq_false hg).2, hrun⟩
  · refine (processMessageB_mapInput hA d).imp_right ?_
    rintro ⟨_, hrun, id, rest, index, rest', busId, flags, s, h1, h2, hs, hg, rfl⟩
    exact ⟨id, .mapInput index busId flags, s, rest, rest', hA.symm, h1, h2, hs,
      (indexOutOfRange_eq_false hg).1, (indexOutOfRange_eq_false hg).2, hrun⟩
  · refine (processMessageB_mapOutput hA d).imp_right ?_
    rintro ⟨_, hrun, id, rest, index, rest', busId, flags, s, h1, h2, hs, hg, rfl⟩
    exact ⟨id, .mapOutput index busId flags, s, rest, rest', hA.symm, h1, h2, hs,
      (indexOutOfRange_eq_false hg).1, (indexOutOfRange_eq_false hg).2, hrun⟩

theorem port_writes_in_range_nodeSet :
    ((⟨"/node/set", [.int32 1, .int32 0, .float32 0]⟩ : Osc.Message).address = "/node/set" ∨
      (⟨"/node/set", [.int32 1, .int32 0, .float32 0]⟩ : Osc.Message).address = "/synth/map/input" ∨
      (⟨"/node/set", [.int32 1, .int32 0, .float32 0]⟩ : Osc.Message).address = "/synth/map/output") ∧
    (RepliesError 0 ⟨"/node/set", [.int32 1, .int32 0, .float32 0]⟩ 0 0
        (Environment.init (α := Int) ⟨48000, 64, 0, 0, 16, 0, 1024⟩ (fun _ _ => 0)
          ⟨16, [Environment.rootGroup], List.nodup_singleton _⟩).dispatcher ∨
      ∃ (id : NodeId) (w : PortWrite) (s : Synth) (rest rest' : Osc.ArgStream),
        w.address = "/node/set" ∧ Osc.ArgStream.int32 [.int32 1, .int32 0, .float32 0] = .ok (id, rest) ∧
        Osc.ArgStream.int32 rest = .ok (w.index, rest') ∧
        (Environment.init (α := Int) ⟨48000, 64, 0, 0, 16, 0, 1024⟩ (fun _ _ => 0)
          ⟨16, [Environment.rootGroup], List.nodup_singleton _⟩).dispatcher.nodes.synthAt id = some s ∧
        0 ≤ w.index.toInt ∧ w.index.toInt < w.count s ∧
        (processMessageB 0 ⟨"/node/set", [.int32 1, .int32 0, .float32 0]⟩ 0 0).run
            (Environment.init (α := Int) ⟨48000, 64, 0, 0, 16, 0, 1024⟩ (fun _ _ => 0)
              ⟨16, [Environment.rootGroup], List.nodup_singleton _⟩).dispatcher =
          .ok () { (Environment.init (α := Int) ⟨48000, 64, 0, 0, 16, 0, 1024⟩ (fun _ _ => 0)
              ⟨16, [Environment.rootGroup], List.nodup_singleton _⟩).dispatcher.record
                (.phaseB 0 ⟨"/node/set", [.int32 1, .int32 0, .float32 0]⟩ 0) with
            nodes := (Environment.init (α := Int) ⟨48000, 64, 0, 0, 16, 0, 1024⟩ (fun _ _ => 0)
              ⟨16, [Environment.rootGroup], List.nodup_singleton _⟩).dispatcher.nodes.updateSynth
                id w.apply }) :=
  ⟨.inl rfl, port_writes_in_range 0 _ 0 0 _ (.inl rfl)⟩

end Dispatcher

end Methcla

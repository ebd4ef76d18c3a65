import Methcla.Construct
/-!
Who owns the realtime arena's blocks, over whole runs (`Engine.cpp`: `processMessage`'s
`/synth/new` branch and `Synth::construct`, Phase B's `/node/free` and `m_nodes.remove`,
`replyError`, `m_worker.perform()`, and the perform functions).

Two kinds of owner take blocks from `rtMem()`. A synth holds its instance block from
`Synth::construct` until `/node/free` removes the node and frees it. A command on the worker
channel holds the `ErrorData` of `replyError`, or a plugin command's `CallbackData`, until
`perform_rt_free` gives it back. Both allocate from the one arena and both free into it, on
the audio thread. So a block must have one owner at a time: the arena must not hand out a
block a synth still holds, `/node/free` must not free a block a command still carries, and
`perform_rt_free` must not free a synth's block.

`Channel.Apart c b` says that arena block `b` is live, below the arena's next block, and
carried by no command. Every step of the channel keeps it (`Channel.Inv.apart_step`): a
producer allocates the arena's next block, above `b`, and a perform frees only the block its
command carries. `ArenaSafe` says that the registered synths' blocks are distinct and apart
from the channel, and that the channel keeps its own invariant (`Channel.Inv`, the worker's
ownership discipline). Registering a synth keeps it because `Synth::construct` allocates its
block at the arena's next one, which no owner holds yet; removing one keeps it because the
block freed is the removed synth's alone. `ArenaSafe` is a `RunInvariant`, so every engine a
run reaches has it (`arena_blocks_owned_run`).
-/

set_option autoImplicit false

namespace Methcla

namespace Channel

variable {c : Channel}

/-- Arena block `b` is live, below the arena's next block, and carried by no command. -/
def Apart (c : Channel) (b : Nat) : Prop :=
  c.rtMem.IsLive b ∧ (⟨.rt, b⟩ : Ptr) ∉ c.attached ∧ b < c.rtMem.next

/-- Arena blocks `bs` are apart from the channel, whose ownership invariant holds. -/
structure Outside (c : Channel) (bs : List Nat) : Prop where
  inv : c.Inv
  apart : ∀ b ∈ bs, c.Apart b

/-- A perform frees at most the block its command carries, and allocates nothing. -/
theorem Inv.isLive_perform (hc : c.Inv) {q : Queue} {cmd : Command} {rest : List Command}
    (hq : c.queueOf q = cmd :: rest) {p : Ptr} (hp : p ∉ c.attached) :
    ((Channel.perform q.thread cmd (c.setQueue q rest)).IsLive p ↔ c.IsLive p) ∧
      ∀ a, (Channel.perform q.thread cmd (c.setQueue q rest)).nextOf a = c.nextOf a := by
  obtain ⟨r, fl, he, -⟩ := perform_eq q.thread cmd (c.setQueue q rest)
  rw [he]
  rcases cmd.perform.handoff_cases with ⟨q', g, hg⟩ | ⟨a, ha⟩
  · rw [hg]
    simp [act]
  · obtain ⟨rfl, -⟩ := PerformFunc.handoff_free ha
    have hne : p ≠ cmd.data.ptr := fun h => hp (h ▸ (hc.head_owned hq).1)
    rw [ha, ← hc.alloc cmd (mem_inflight.2 ⟨q, by simp [hq]⟩)]
    simp [act, isLive_free, hne]

/-- An arena allocation takes the arena's next block, above every block apart. -/
theorem Apart.rtAlloc {b n b' : Nat} {m : RTMemoryManager} (hb : c.Apart b)
    (h : c.rtMem.alloc n = .ok (b', m)) : ({ c with rtMem := m } : Channel).Apart b ∧ b ≠ b' := by
  obtain ⟨rfl, rfl⟩ := RTMemoryManager.alloc_eq_ok h
  obtain ⟨hlive, hatt, hlt⟩ := hb
  refine ⟨⟨?_, hatt, ?_⟩, ?_⟩ <;> simp_all [RTMemoryManager.IsLive] <;> omega

/-- Attaching another block to a command leaves block `b` apart. -/
theorem Apart.attach {b : Nat} (hb : c.Apart b) {p : Ptr} (hp : p ≠ ⟨.rt, b⟩) (f : PerformFunc)
    (payload : Payload) : (c.attach f p payload).Apart b :=
  ⟨by simpa [Channel.attach] using hb.1, by simpa [Channel.attach, Ne.symm hp] using hb.2.1,
    by simpa [Channel.attach] using hb.2.2⟩

/-- **A channel step leaves a block apart apart**, on either side and in any order. -/
theorem Inv.apart_step (hc : c.Inv) (s : Step) {b : Nat} (hb : c.Apart b) : (c.step s).Apart b := by
  have hperform : ∀ q cmd rest, c.queueOf q = cmd :: rest →
      (Channel.perform q.thread cmd (c.setQueue q rest)).Apart b := by
    intro q cmd rest hq
    have h := hc.isLive_perform hq hb.2.1
    refine ⟨(h.1.2 hb.1 : _), ?_, ?_⟩
    · rw [attached_perform, setQueue_attached]; exact hb.2.1
    · exact lt_of_lt_of_eq hb.2.2 (h.2 .rt).symm
  have halloc : ∀ {n b' m} (f : PerformFunc) (payload : Payload), c.rtMem.alloc n = .ok (b', m) →
      ({ c with rtMem := m }.attach f ⟨.rt, b'⟩ payload).Apart b := fun f payload h =>
    (hb.rtAlloc h).1.attach (by simpa using (hb.rtAlloc h).2.symm) f payload
  cases s with
  | replyError | world_perform_command =>
    -- Both producers allocate their block from the arena and attach it.
    simp only [Channel.step, Channel.replyError, Channel.world_perform_command]
    split <;> rename_i h
    · split at h
      · cases h; exact halloc _ _ ‹_›
      · cases h
    · exact hb
  | host_perform_command =>
    exact (show ({ c with heap := c.heap.alloc.2 } : Channel).Apart b from hb).attach (by simp) _ _
  | request_new => exact hb
  | request_release b' =>
    simp only [Channel.step, Channel.request_release]
    split
    · exact (show ({ c with held := c.held.erase b' } : Channel).Apart b from hb).attach (by simp) _ _
    · exact hb
  | audio_perform =>
    simp only [Channel.step]
    split
    · exact hb
    · exact hperform .fromWorker _ _ ‹_›
  | worker_take i =>
    -- Taking a command moves it between places and leaves the arena alone.
    simp only [Channel.step]
    split <;> exact hb
  | worker_perform i =>
    simp only [Channel.step]
    split
    · exact hb
    · exact hperform (.running i) _ _ ‹_›

theorem Outside.step {bs : List Nat} (h : c.Outside bs) (s : Step) : (c.step s).Outside bs :=
  ⟨h.inv.step s, fun b hb => h.inv.apart_step s (h.apart b hb)⟩

theorem Outside.sublist {bs bs' : List Nat} (h : c.Outside bs) (hs : List.Sublist bs' bs) : c.Outside bs' :=
  ⟨h.inv, fun b hb => h.apart b (hs.subset hb)⟩

/-- Freeing an arena block no command carries keeps the channel's invariant. -/
theorem Inv.rtFree (hc : c.Inv) {b : Nat} (hb : (⟨.rt, b⟩ : Ptr) ∉ c.attached) :
    ({ c with rtMem := c.rtMem.free b } : Channel).Inv := by
  refine ⟨hc.queued, hc.alloc, hc.carried, fun p hp hf => ?_, hc.frees, hc.nodup, hc.fresh, hc.held,
    hc.held_nodup, hc.not_faulted⟩
  obtain ⟨⟨⟩, b'⟩ := p
  · exact RTMemoryManager.isLive_free.2 ⟨hc.live _ hp hf, fun h => hb (h ▸ hp)⟩
  · exact hc.live _ hp hf

/-- Freeing arena block `b` leaves every other block apart apart. -/
theorem Apart.rtFree {b b' : Nat} (hb' : c.Apart b') (hne : b' ≠ b) :
    ({ c with rtMem := c.rtMem.free b } : Channel).Apart b' :=
  ⟨RTMemoryManager.isLive_free.2 ⟨hb'.1, hne⟩, hb'.2.1, hb'.2.2⟩

end Channel

/-! ## The registry's blocks -/

/-- The arena block of a synth node; a group has none. -/
def Node.block? (n : Node) : Option Nat :=
  match n.kind with
  | .synth s => some s.mem
  | .group => none

namespace NodeMap

/-- The arena blocks of the registered synths, in registration order. -/
def synthBlocks (m : NodeMap) : List Nat := m.nodes.filterMap Node.block?

theorem synthBlocks_insert {m m' : NodeMap} {node : Node} (h : m.insert node = .ok m') :
    m'.synthBlocks = m.synthBlocks ++ node.block?.toList := by
  unfold insert at h
  split at h
  · cases h
    cases hb : node.block? <;> simp [synthBlocks, hb]
  · cases h

/-- Changing a synth in place keeps the registry's blocks when the change keeps the synth's. -/
theorem synthBlocks_updateSynth (m : NodeMap) (id : NodeId) {f : Synth → Synth}
    (hf : ∀ s, (f s).mem = s.mem) : (m.updateSynth id f).synthBlocks = m.synthBlocks := by
  simp only [synthBlocks, updateSynth, List.filterMap_map]
  congr 1
  funext ⟨_, _, _, k⟩
  cases k
  · rfl
  · simp only [Function.comp]
    split <;> simp [Node.block?, hf]

theorem synthBlocks_remove_sublist (m : NodeMap) (id : NodeId) :
    List.Sublist (m.remove id).synthBlocks m.synthBlocks :=
  (List.filter_sublist _).filterMap _

/-- With distinct blocks, the block of the synth `remove` drops is no remaining synth's, nor
one of the blocks `pre` counted with them. -/
theorem not_mem_synthBlocks_remove {m : NodeMap} {id : NodeId} {n : Node} {s : Synth}
    {pre : List Nat} (hnd : (pre ++ m.synthBlocks).Nodup) (hl : m.lookup id = some n)
    (hs : n.kind = .synth s) : s.mem ∉ pre ++ (m.remove id).synthBlocks := by
  have hperm := ((List.filter_append_perm (·.id != id) m.nodes).filterMap Node.block?).append_left pre
  rw [List.filterMap_append, ← List.append_assoc] at hperm
  have hdisj := (List.nodup_append.1 (hperm.nodup_iff.2 hnd)).2.2
  refine fun hmem => hdisj hmem (List.mem_filterMap.2 ⟨n, List.mem_filter.2
    ⟨List.mem_of_find?_eq_some hl, ?_⟩, by simp [Node.block?, hs]⟩)
  simp [lookup_id hl]

end NodeMap

/-! ## The dispatcher -/

namespace Dispatcher

/-- The registered synths' arena blocks, and the blocks `lost`, which no owner holds, are
distinct and apart from the worker channel, and the channel keeps its ownership invariant. -/
structure ArenaSafe (lost : List Nat) (d : Dispatcher) : Prop where
  outside : d.channel.Outside (lost ++ d.nodes.synthBlocks)
  nodup : (lost ++ d.nodes.synthBlocks).Nodup

section Arena

variable {lost : List Nat}

/-- `ArenaSafe` reads the channel and the blocks it counts only, and holds of fewer blocks. -/
theorem ArenaSafe.of_subperm {lost' : List Nat} {d d' : Dispatcher} (hd : ArenaSafe lost d)
    (hc : d'.channel = d.channel)
    (hs : List.Subperm (lost' ++ d'.nodes.synthBlocks) (lost ++ d.nodes.synthBlocks)) :
    ArenaSafe lost' d' := by
  obtain ⟨l, hp, hsub⟩ := hs
  refine ⟨⟨?_, fun b hb => ?_⟩, hp.nodup_iff.1 (hd.nodup.sublist hsub)⟩ <;> rw [hc]
  · exact hd.outside.inv
  · exact hd.outside.apart b (hsub.subset (hp.symm.subset hb))

theorem ArenaSafe.of_eq {d d' : Dispatcher} (hd : ArenaSafe lost d) (hc : d'.channel = d.channel)
    (hb : d'.nodes.synthBlocks = d.nodes.synthBlocks) : ArenaSafe lost d' :=
  hd.of_subperm hc (by rw [hb])

/-- `m_nodes.remove(id)` frees the removed synth's block, which is its alone. -/
theorem ArenaSafe.removeNode {d : Dispatcher} (hd : ArenaSafe lost d) (id : NodeId) :
    ArenaSafe lost (removeNode id d) := by
  have hsub := (d.nodes.synthBlocks_remove_sublist id).append_left lost
  have hkeep : ArenaSafe lost { d with nodes := d.nodes.remove id } := hd.of_subperm rfl hsub.subperm
  rcases hl : d.nodes.lookup id with _ | ⟨nid, inst, parent, _ | s⟩ <;>
    simp only [Dispatcher.removeNode, hl]
  · exact hkeep.of_eq rfl rfl
  · exact hkeep.of_eq rfl rfl
  · have hs := d.nodes.not_mem_synthBlocks_remove hd.nodup hl rfl
    have hmem : s.mem ∈ lost ++ d.nodes.synthBlocks :=
      List.mem_append_right _ (List.mem_filterMap.2 ⟨_, List.mem_of_find?_eq_some hl, rfl⟩)
    exact ⟨⟨hd.outside.inv.rtFree (hd.outside.apart _ hmem).2.1, fun b hb =>
      (hd.outside.apart b (hsub.subset hb)).rtFree fun h => hs (h ▸ hb)⟩, hkeep.nodup⟩

/-- An arena allocation hands out a block that is apart and counted nowhere: it is lost until
a node that holds it is registered. -/
theorem ArenaSafe.rtAlloc {d : Dispatcher} (hd : ArenaSafe lost d) {n b : Nat} {m : RTMemoryManager}
    (h : d.channel.rtMem.alloc n = .ok (b, m)) :
    ArenaSafe (b :: lost) { d with channel := { d.channel with rtMem := m } } := by
  obtain ⟨hinv, hnew, hlive, hlt⟩ := hd.outside.inv.rtAlloc h
  refine ⟨⟨hinv, ?_⟩, List.nodup_cons.2 ⟨fun hmem => ((hd.outside.apart _ hmem).rtAlloc h).2 rfl,
    hd.nodup⟩⟩
  rintro b' (_ | ⟨_, hb'⟩)
  · exact ⟨hlive, hnew, hlt⟩
  · exact ((hd.outside.apart b' hb').rtAlloc h).1

/-- Registering a node moves its block, if it has one, from the lost blocks to the registry's;
a refused registration leaves it lost. -/
theorem ArenaSafe.insertNode {d : Dispatcher} {node : Node} (hd : ArenaSafe (node.block?.toList ++ lost) d) :
    ArenaSafe lost (endState ((insertNode node).run d)) := by
  rw [Dispatcher.insertNode, run_get_bind]
  split
  · rename_i nodes hins
    show ArenaSafe lost { d with nodes := nodes }
    refine hd.of_subperm rfl (List.Perm.subperm ?_)
    rw [NodeMap.synthBlocks_insert hins, ← List.append_assoc, List.append_assoc _ lost]
    exact List.perm_append_comm
  · exact hd.of_subperm rfl (by rw [List.append_assoc]; exact (List.sublist_append_right _ _).subperm)

/-- `Synth::construct` with control initialisers that read and an instance that fits: the new
synth, inactive and unmapped, holds the block the arena handed out. -/
theorem run_constructSynth_of {nodeId : NodeId} {parent : Option Nat} {synthDef : SynthDef}
    {synthControls : Osc.ArgStream} {d : Dispatcher} {values : List (BitVec 32)} {b : Nat}
    {m : RTMemoryManager} (hctl : readControls synthDef.numControlInputs synthControls = .ok values)
    (halloc : d.channel.rtMem.alloc synthDef.instanceSize = .ok (b, m)) :
    (constructSynth nodeId parent synthDef synthControls).run d =
      .ok ⟨nodeId, d.nextInst, parent, .synth ⟨synthDef, values,
          List.replicate synthDef.numAudioInputs none, List.replicate synthDef.numAudioOutputs none,
          none, b⟩⟩
        { d with channel := { d.channel with rtMem := m }, nextInst := d.nextInst + 1,
                 tree := addToTail d.tree parent d.nextInst } := by
  unfold constructSynth
  rw [hctl, run_bind_ok (run_liftExcept_ok _ d), run_get_bind]
  simp only [halloc]
  rfl

/-- What `Synth::construct` does: it throws having changed nothing, or it takes the arena's
block for the new synth and returns the synth, numbered `nextInst` and holding that block. -/
theorem run_constructSynth (nodeId : NodeId) (parent : Option Nat) (synthDef : SynthDef)
    (synthControls : Osc.ArgStream) (d : Dispatcher) :
    (∃ e, (constructSynth nodeId parent synthDef synthControls).run d = .error e d) ∨
      ∃ s m, (constructSynth nodeId parent synthDef synthControls).run d =
          .ok ⟨nodeId, d.nextInst, parent, .synth s⟩
            { d with channel := { d.channel with rtMem := m }, nextInst := d.nextInst + 1,
                     tree := addToTail d.tree parent d.nextInst } ∧
        d.channel.rtMem.alloc synthDef.instanceSize = .ok (s.mem, m) := by
  rcases hc : readControls synthDef.numControlInputs synthControls with e | values
  · exact .inl ⟨e, by unfold constructSynth; rw [hc]; rfl⟩
  rcases halloc : d.channel.rtMem.alloc synthDef.instanceSize with e | ⟨b, m⟩
  · refine .inl ⟨e, ?_⟩
    unfold constructSynth
    rw [hc, run_bind_ok (run_liftExcept_ok _ d), run_get_bind]
    simp only [halloc]
    rfl
  · exact .inr ⟨_, m, run_constructSynth_of hc halloc, rfl⟩

theorem run_synthDef_of {uri : String} {d : Dispatcher} {synthDef : SynthDef}
    (h : d.synthDefs.find? (·.uri == uri) = some synthDef) :
    (Dispatcher.synthDef uri).run d = .ok synthDef d := by
  rw [Dispatcher.synthDef, run_get_bind]
  simp only [h]
  rfl

/-- `args.atEnd() ? ArgStream() : args.array()`, and what follows it, is one read that may
throw, and what follows it. -/
theorem ite_pure_liftExcept_bind {β γ : Type} (c : Bool) (b : β) (x : Except Exception β)
    (k : β → DispatchM γ) :
    (if c = true then pure b >>= k else Dispatcher.liftExcept x >>= k) =
      Dispatcher.liftExcept (if c = true then .ok b else x) >>= k := by
  split <;> rfl

/-! ## Phase A and Phase B, part by part -/

section Parts

variable {Q : Dispatcher → Prop}

/-- Code run on the node `lookupNode` found keeps `Q` when it does so from every state that
registers that node under the id looked up. -/
theorem keeps_lookupNode_bind {β : Type} {id : NodeId} {f : Node → DispatchM β}
    (hf : ∀ d target, Q d → d.nodes.lookup id = some target → Q (endState ((f target).run d))) :
    Keeps Q (lookupNode id >>= f) := by
  intro d hd
  rcases hl : d.nodes.lookup id with _ | target
  · have h : (lookupNode id).run d = .error (.error .nodeIdError) d := by
      simp only [lookupNode, run_def, bind, EStateM.bind, get, getThe, MonadStateOf.get,
        EStateM.get, hl]
      rfl
    rw [run_bind_error h]
    exact hd
  · rw [run_bind_ok (run_lookupNode_of hl)]
    exact hf d target hd hl

theorem keeps_freeNode_of (hremove : ∀ id d, Q d → Q (removeNode id d)) (nodeId : NodeId) :
    Keeps Q (freeNode nodeId) :=
  Keeps.get_bind fun d hd => by split_ifs <;> first | exact hd | exact hremove nodeId d hd

theorem keeps_synthNewB_of (hlog : ∀ e, Keeps Q (log e))
    (hupdate : ∀ id (f : Synth → Synth), (∀ s, (f s).mem = s.mem) → Keeps Q (updateSynth id f))
    (args : Osc.ArgStream) (scheduleTime currentTime : Time) :
    Keeps Q (synthNewB args scheduleTime currentTime) := by
  unfold synthNewB activate
  repeat' first
    | with_reducible exact blind_liftExcept _ | with_reducible exact blind_lookupSynth _
    | with_reducible exact hlog _ | with_reducible exact Keeps.get
    | exact hupdate _ _ fun _ => rfl
    | with_reducible apply Keeps.bind | intro ⟨_, _⟩ | intro _

theorem keeps_mapConnection_of
    (hupdate : ∀ id (f : Synth → Synth), (∀ s, (f s).mem = s.mem) → Keeps Q (updateSynth id f))
    (args : Osc.ArgStream) (numPorts : Synth → Nat) (what : String)
    {map : Synth → Nat → BitVec 32 → BitVec 32 → Synth} (hmap : ∀ s i b f, (map s i b f).mem = s.mem) :
    Keeps Q (mapConnection args numPorts what map) := by
  unfold mapConnection
  repeat' first
    | with_reducible exact blind_liftExcept _ | with_reducible exact blind_lookupSynth _
    | with_reducible exact Keeps.pure _ | with_reducible exact Keeps.throw _
    | with_reducible apply Keeps.ite | with_reducible apply Keeps.bind
    | exact hupdate _ _ fun _ => hmap _ _ _ _ | intro ⟨_, _⟩ | intro _

/-- **Phase B keeps what its parts keep**: the log, `replyError`, a change of a synth in
place that leaves its arena block alone, and the removal of a node. -/
theorem keeps_processMessageB_of (hlog : ∀ e, Keeps Q (log e))
    (hreply : ∀ rid msg, Keeps Q (replyError rid msg))
    (hupdate : ∀ id (f : Synth → Synth), (∀ s, (f s).mem = s.mem) → Keeps Q (updateSynth id f))
    (hremove : ∀ id d, Q d → Q (removeNode id d))
    (rid : Nat) (msg : Osc.Message) (scheduleTime currentTime : Time) :
    Keeps Q (processMessageB rid msg scheduleTime currentTime) := by
  unfold processMessageB
  refine Keeps.bind (hlog _) fun _ => Keeps.tryCatch ?_ fun _ => hreply _ _
  repeat' first
    | with_reducible exact blind_liftExcept _ | with_reducible exact blind_lookupSynth _
    | with_reducible exact keeps_freeNode_of hremove _
    | with_reducible exact keeps_synthNewB_of hlog hupdate _ _ _
    | with_reducible exact Keeps.pure _ | with_reducible exact Keeps.throw _
    | with_reducible apply Keeps.ite | with_reducible apply Keeps.bind
    | exact keeps_mapConnection_of hupdate _ _ _ fun _ _ _ _ => rfl
    | exact hupdate _ _ fun _ => rfl | intro ⟨_, _⟩ | intro _

/-- **Phase A keeps what its parts keep**: the log, `replyError`, and its two ways of
building a node at the target's group, `Group::construct` or `Synth::construct`, each followed
by `nodes().insert`. -/
theorem keeps_processMessageA_of (hlog : ∀ e, Keeps Q (log e))
    (hreply : ∀ rid msg, Keeps Q (replyError rid msg))
    (hgroup : ∀ targetId nodeId (k : PUnit → DispatchM Bool), (∀ u, Keeps Q (k u)) →
      Keeps Q (lookupNode targetId >>= fun target => constructGroup nodeId (targetGroup target) >>=
        fun group => insertNode group >>= k))
    (hsynth : ∀ targetId nodeId synthDef synthControls (k : PUnit → DispatchM Bool),
      (∀ u, Keeps Q (k u)) →
      Keeps Q (lookupNode targetId >>= fun target =>
        constructSynth nodeId (targetGroup target) synthDef synthControls >>= fun synth =>
          insertNode synth >>= k))
    (rid : Nat) (msg : Osc.Message) : Keeps Q (processMessageA rid msg) := by
  unfold processMessageA
  refine Keeps.bind (hlog _) fun _ => Keeps.tryCatch ?_ fun _ =>
    Keeps.bind (hreply _ _) fun _ => Keeps.pure _
  repeat' first
    | with_reducible exact blind_liftExcept _ | with_reducible exact blind_synthDef _
    | with_reducible apply hgroup | with_reducible apply hsynth
    | with_reducible exact Keeps.pure _ | with_reducible exact Keeps.throw _
    | with_reducible apply Keeps.ite | with_reducible apply Keeps.bind | intro ⟨_, _⟩ | intro _

end Parts

section Keeps

variable {β : Type}

theorem arenaSafe_log (e : Event) : Keeps (ArenaSafe lost) (log e) :=
  Keeps.modify fun _ h => h.of_eq rfl rfl

theorem arenaSafe_replyError (rid : BitVec 32) (msg : String) :
    Keeps (ArenaSafe lost) (replyError rid msg) :=
  Keeps.get_bind fun d hd => by
    have h := hd.outside.step (.replyError rid msg)
    split <;> rename_i hc
    · simp only [Channel.step, hc] at h
      exact ⟨h, hd.nodup⟩
    · exact hd

theorem arenaSafe_updateSynth (id : NodeId) {f : Synth → Synth} (hf : ∀ s, (f s).mem = s.mem) :
    Keeps (ArenaSafe lost) (updateSynth id f) :=
  Keeps.modify fun d hd => hd.of_eq rfl (d.nodes.synthBlocks_updateSynth id hf)

/-- `Group::construct` then `nodes().insert`: a group holds no block. -/
theorem arenaSafe_constructGroup_insertNode (nodeId : NodeId) (parent : Option Nat)
    {k : PUnit → DispatchM β} (hk : ∀ u, Keeps (ArenaSafe lost) (k u)) :
    Keeps (ArenaSafe lost) (constructGroup nodeId parent >>= fun group => insertNode group >>= k) := by
  intro d hd
  rw [run_bind_ok (run_constructGroup nodeId parent d)]
  exact Keeps.bind_at (ArenaSafe.insertNode (hd.of_eq rfl rfl)) hk

/-- `Synth::construct` then `nodes().insert`: the construction allocates the arena's next
block, which no synth and no command holds, and registering the synth hands it over to the
registry. -/
theorem arenaSafe_constructSynth_insertNode (nodeId : NodeId) (parent : Option Nat)
    (synthDef : SynthDef) (synthControls : Osc.ArgStream) {k : PUnit → DispatchM β}
    (hk : ∀ u, Keeps (ArenaSafe lost) (k u)) :
    Keeps (ArenaSafe lost) (constructSynth nodeId parent synthDef synthControls >>= fun synth =>
      insertNode synth >>= k) := by
  intro d hd
  rcases run_constructSynth nodeId parent synthDef synthControls d with ⟨e, h⟩ | ⟨s, m, h, halloc⟩
  · rw [run_bind_error h]
    exact hd
  rw [run_bind_ok h]
  exact Keeps.bind_at (ArenaSafe.insertNode ((hd.rtAlloc halloc).of_eq rfl rfl)) hk

/-- **The ownership of the arena is a run invariant.** Phase A registers groups, which hold
no block, and synths, each with a fresh block; Phase B changes synths in place and removes
nodes, and `/node/free` frees the block of the synth it removes, which no other owner holds. -/
theorem arenaSafe_invariant (lost : List Nat) : RunInvariant (ArenaSafe lost) :=
  ⟨keeps_processMessageA_of arenaSafe_log arenaSafe_replyError
      (fun _ nodeId _ hk => Keeps.bind (blind_lookupNode _) fun _ =>
        arenaSafe_constructGroup_insertNode nodeId _ hk)
      (fun _ nodeId _ _ _ hk => Keeps.bind (blind_lookupNode _) fun _ =>
        arenaSafe_constructSynth_insertNode nodeId _ _ _ hk),
    keeps_processMessageB_of arenaSafe_log arenaSafe_replyError
      (fun _ _ hf => arenaSafe_updateSynth _ hf) fun id _ hd => hd.removeNode id,
    fun e _ => arenaSafe_log e, fun _ s h => ⟨h.outside.step s, h.nodup⟩, fun _ _ h => h.of_eq rfl rfl⟩

end Keeps

end Arena

end Dispatcher

namespace Environment

open Dispatcher

variable {α : Type}

theorem arenaSafe_new {options : Options} {data : Bus → Buffer α} {env : Environment α}
    (h : new options data = .ok env) : env.dispatcher.ArenaSafe [] := by
  obtain ⟨nodes, hins, rfl⟩ := new_ok h
  have hb : (init options data nodes).dispatcher.nodes.synthBlocks = [] :=
    (NodeMap.synthBlocks_insert hins).trans rfl
  exact ⟨⟨Channel.inv_new _, by simp [hb]⟩, by simp [hb]⟩

/-- **Every arena block has one owner.** In every state a run reaches from a constructed
engine, under any interleaving of requests, blocks and worker steps: the registered synths'
arena blocks are distinct, each is live, and no command on the worker channel carries one;
and the channel keeps its ownership invariant (no perform function reads a dead block, no
block is freed twice, each block a command carries is live and carried by that command
alone). So `/node/free` frees a block that no other synth holds and no command carries,
`perform_rt_free` never frees a synth's block, and the arena never hands out a block a synth
holds. -/
theorem arena_blocks_owned_run [Add α] [Zero α] {options : Options} {data : Bus → Buffer α}
    {env : Environment α} (h : new options data = .ok env) (inputs : List (Input α)) :
    let d := (env.run inputs).dispatcher
    d.channel.Inv ∧ d.nodes.synthBlocks.Nodup ∧
      ∀ b ∈ d.nodes.synthBlocks, d.channel.rtMem.IsLive b ∧ (⟨.rt, b⟩ : Ptr) ∉ d.channel.attached :=
  have hd := (arenaSafe_invariant []).run (arenaSafe_new h) inputs
  ⟨hd.outside.inv, hd.nodup, fun b hb => ⟨(hd.outside.apart b hb).1, (hd.outside.apart b hb).2.1⟩⟩

theorem arena_blocks_owned_run_sine :
    let env := init (α := Int) ⟨48000, 64, 0, 2, 1024, 16, 65536⟩ (fun _ _ => 0)
      ⟨1024, [rootGroup], List.nodup_singleton _⟩
    let d := (env.run [.registerSynthDef ⟨"sine", 8, 0, 1, 0⟩,
      .send (.message ⟨"/synth/new", [.string "sine", .int32 1, .int32 0, .int32 0]⟩),
      .process 0 64 (fun _ _ => 0) (fun _ _ => 0) [], .workerTake 0, .workerPerform 0]).dispatcher
    new ⟨48000, 64, 0, 2, 1024, 16, 65536⟩ (fun _ _ => 0) = .ok env ∧
      d.channel.Inv ∧ d.nodes.synthBlocks.Nodup ∧
      ∀ b ∈ d.nodes.synthBlocks, d.channel.rtMem.IsLive b ∧ (⟨.rt, b⟩ : Ptr) ∉ d.channel.attached :=
  have h : new (α := Int) ⟨48000, 64, 0, 2, 1024, 16, 65536⟩ (fun _ _ => 0) =
      .ok (init ⟨48000, 64, 0, 2, 1024, 16, 65536⟩ (fun _ _ => 0)
        ⟨1024, [rootGroup], List.nodup_singleton _⟩) := rfl
  ⟨h, arena_blocks_owned_run h _⟩

/-! ## A refused `/synth/new` -/

/-- **A refused `/synth/new` leaks its instance block for good.** Take any dispatcher whose
arena blocks are accounted for, and a `/synth/new` whose arguments read, whose definition is
registered, whose target is registered, whose control initialisers read and whose instance
fits in the arena, but whose id is taken or whose registry is full. `Synth::construct` takes
the arena's next block for the instance before `nodes().insert` throws, and nothing gives the
block back: in every state any run then reaches, the block is still allocated, no registered
synth holds it and no command carries it. -/
theorem synth_new_refused_leaks_block (rid : Nat) (msg : Osc.Message) (d : Dispatcher)
    {defName : String} {nodeId targetId : NodeId}
    {rest₁ rest₂ rest₃ rest₄ controls rest₅ synthArgs rest₆ : Osc.ArgStream} {synthDef : SynthDef}
    {target : Node} {values : List (BitVec 32)} (hd : d.ArenaSafe [])
    (hA : msg.address = "/synth/new") (h₁ : Osc.ArgStream.string msg.args = .ok (defName, rest₁))
    (h₂ : Osc.ArgStream.int32 rest₁ = .ok (nodeId, rest₂))
    (h₃ : Osc.ArgStream.int32 rest₂ = .ok (targetId, rest₃))
    (h₄ : Osc.ArgStream.drop rest₃ = .ok ((), rest₄))
    (hdef : d.synthDefs.find? (·.uri == defName) = some synthDef)
    (hc : (if rest₄.atEnd then .ok ([], rest₄) else rest₄.array) = .ok (controls, rest₅))
    (ha : (if rest₅.atEnd then .ok ([], rest₅) else rest₅.array) = .ok (synthArgs, rest₆))
    (hl : d.nodes.lookup targetId = some target)
    (hctl : readControls synthDef.numControlInputs controls = .ok values)
    (hfit : d.channel.rtMem.used + synthDef.instanceSize ≤ d.channel.rtMem.size)
    (hrefused : d.nodes.contains nodeId = true ∨ d.nodes.maxNumNodes ≤ d.nodes.nodes.length)
    [Add α] [Zero α] (env : Environment α)
    (henv : env.dispatcher = endState ((processMessageA rid msg).run d)) (inputs : List (Input α)) :
    let d' := (env.run inputs).dispatcher
    d'.channel.rtMem.IsLive d.channel.rtMem.next ∧ d.channel.rtMem.next ∉ d'.nodes.synthBlocks ∧
      (⟨.rt, d.channel.rtMem.next⟩ : Ptr) ∉ d'.channel.attached := by
  obtain ⟨m, halloc⟩ : ∃ m, d.channel.rtMem.alloc synthDef.instanceSize = .ok (d.channel.rtMem.next, m) :=
    ⟨_, if_pos hfit⟩
  -- The `try` block throws at `insert`, after `construct` took the block.
  have hrun : (processMessageA rid msg).run d =
      (replyError kMethcla_Notification (Exception.error .nodeIdError).what >>= fun _ => pure true).run
        { d.record (.phaseA rid msg) with
          channel := { d.channel with rtMem := m }
          nextInst := d.nextInst + 1
          tree := addToTail d.tree (targetGroup target) d.nextInst } := by
    rw [processMessageA, run_bind_ok (Dispatcher.run_log _ _)]
    simp only [if_neg (show msg.address ≠ "/group/new" by rw [hA]; decide), if_pos hA, h₁, h₂, h₃,
      h₄, liftExcept_ok_bind]
    rw [run_tryCatch_bind_ok (run_synthDef_of (d := d.record _) hdef)]
    simp only [ite_pure_liftExcept_bind, hc, ha, liftExcept_ok_bind]
    rw [run_tryCatch_bind_ok (run_lookupNode_of (d := d.record _) hl),
      run_tryCatch_bind_ok (run_constructSynth_of (d := d.record _) hctl halloc),
      run_tryCatch_error (run_bind_error (run_insertNode_error (NodeMap.insert_eq_error hrefused)) _)]
    rfl
  -- From there the block is lost, and every run keeps it so.
  have hlost : ArenaSafe [d.channel.rtMem.next] env.dispatcher := by
    rw [henv, hrun]
    exact Keeps.bind (arenaSafe_replyError _ _) (fun _ => Keeps.pure _) _
      ((hd.rtAlloc halloc).of_eq rfl rfl)
  have h := (arenaSafe_invariant _).run hlost inputs
  exact ⟨(h.outside.apart _ (.head _)).1, (List.nodup_cons.1 h.nodup).1,
    (h.outside.apart _ (.head _)).2.1⟩

theorem synth_new_refused_leaks_block_root :
    let d := ((init (α := Int) ⟨48000, 64, 0, 2, 16, 16, 1024⟩ (fun _ _ => 0)
      ⟨16, [rootGroup], List.nodup_singleton _⟩).registerSynthDef ⟨"sine", 8, 0, 1, 0⟩).dispatcher
    let msg : Osc.Message := ⟨"/synth/new", [.string "sine", .int32 0, .int32 0, .int32 0]⟩
    let env : Environment Int := { init ⟨48000, 64, 0, 2, 16, 16, 1024⟩ (fun _ _ => 0)
      ⟨16, [rootGroup], List.nodup_singleton _⟩ with
        dispatcher := endState ((processMessageA 0 msg).run d) }
    let d' := (env.run [.process 0 64 (fun _ _ => 0) (fun _ _ => 0) [], .workerTake 0, .workerPerform 0]).dispatcher
    d'.channel.rtMem.IsLive d.channel.rtMem.next ∧ d.channel.rtMem.next ∉ d'.nodes.synthBlocks ∧
      (⟨.rt, d.channel.rtMem.next⟩ : Ptr) ∉ d'.channel.attached := by
  intro d msg env d'
  have hnew : new (α := Int) ⟨48000, 64, 0, 2, 16, 16, 1024⟩ (fun _ _ => 0) =
      .ok (init ⟨48000, 64, 0, 2, 16, 16, 1024⟩ (fun _ _ => 0)
        ⟨16, [rootGroup], List.nodup_singleton _⟩) := rfl
  exact synth_new_refused_leaks_block 0 msg d ((arenaSafe_new hnew).of_eq rfl rfl) rfl rfl rfl rfl
    rfl rfl rfl rfl rfl rfl (by decide) (.inl rfl) env rfl _

end Environment

end Methcla

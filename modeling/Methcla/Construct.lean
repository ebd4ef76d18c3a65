import Methcla.PhaseB
/-!
What Phase A's `/group/new` does to the registry and the node tree (`Engine.cpp`:
`processMessage(msg)`, the `/group/new` branch).

The branch reads its arguments, looks the target up, and then makes two changes in this order:
`Group::construct(*this, nodeId, targetGroup, Node::kAddToTail)` builds the group and links it
at the tail of the target group, and `nodes().insert(group->id(), group)` registers it. The
insertion is the step that can refuse, when the id is taken or the registry already holds
`maxNumNodes` nodes, and nothing undoes the link when it throws. So a refused `/group/new`
does not leave the engine as it found it: the registry is unchanged, and the tree holds a
group that no id reaches (`group_new_refused_keeps_link`).

The calls of the branch are run one at a time, each by its own lemma: `run_lookupNode_of`,
`run_constructGroup` and `run_insertNode_error`.
-/

set_option autoImplicit false

namespace Methcla

namespace NodeMap

/-- `nodes().insert` refuses a node whose id is taken, and any node once the registry is full. -/
theorem insert_eq_error {m : NodeMap} {node : Node}
    (h : m.contains node.id = true ∨ m.maxNumNodes ≤ m.nodes.length) :
    m.insert node = .error (.error .nodeIdError) := by
  unfold insert
  rw [dif_neg]
  rintro ⟨h₁, h₂⟩
  rcases h with h | h
  · rw [h₁] at h
    cases h
  · omega

end NodeMap

namespace Dispatcher

theorem run_lookupNode_of {id : NodeId} {d : Dispatcher} {node : Node}
    (hl : d.nodes.lookup id = some node) : (lookupNode id).run d = .ok node d := by
  simp only [lookupNode, run_def, bind, EStateM.bind, get, getThe, MonadStateOf.get, EStateM.get, hl]
  rfl

/-- `Group::construct` numbers the new object and links it at the tail of `parent`. -/
theorem run_constructGroup (nodeId : NodeId) (parent : Option Nat) (d : Dispatcher) :
    (constructGroup nodeId parent).run d = .ok ⟨nodeId, d.nextInst, parent, .group⟩
      { d with nextInst := d.nextInst + 1, tree := addToTail d.tree parent d.nextInst } := rfl

/-- A refused insertion throws from the state it was called in. -/
theorem run_insertNode_error {node : Node} {d : Dispatcher} {e : Exception}
    (h : d.nodes.insert node = .error e) : (insertNode node).run d = .error e d := by
  rw [insertNode, run_get_bind]
  simp only [h]
  rfl

/-- **A refused `/group/new` leaves the new group linked.** Take any registry and tree, and a
`/group/new` whose three arguments read and whose target is registered, but whose id is taken
or whose registry is full. Phase A ends with the registry as it was, and with the tree holding
one more link: the new group object, numbered `nextInst`, at the tail of the target group. That
holds whatever `replyError` then does. -/
theorem group_new_refused_keeps_link (rid : Nat) (msg : Osc.Message) (d : Dispatcher)
    {nodeId targetId : NodeId} {rest rest' rest'' : Osc.ArgStream} {target : Node}
    (hA : msg.address = "/group/new") (h₁ : Osc.ArgStream.int32 msg.args = .ok (nodeId, rest))
    (h₂ : Osc.ArgStream.int32 rest = .ok (targetId, rest'))
    (h₃ : Osc.ArgStream.drop rest' = .ok ((), rest''))
    (hl : d.nodes.lookup targetId = some target)
    (hrefused : d.nodes.contains nodeId = true ∨ d.nodes.maxNumNodes ≤ d.nodes.nodes.length) :
    (endState ((processMessageA rid msg).run d)).nodes = d.nodes ∧
      (endState ((processMessageA rid msg).run d)).tree =
        addToTail d.tree (targetGroup target) d.nextInst := by
  -- The `try` block throws at `insert`, after `construct`: the handler runs from there.
  have hrun : (processMessageA rid msg).run d =
      (replyError kMethcla_Notification (Exception.error .nodeIdError).what >>= fun _ => pure true).run
        { d.record (.phaseA rid msg) with
          nextInst := d.nextInst + 1
          tree := addToTail d.tree (targetGroup target) d.nextInst } := by
    rw [processMessageA, run_bind_ok (Dispatcher.run_log _ _)]
    dsimp only
    rw [if_pos hA, h₁, liftExcept_ok_bind]
    dsimp only
    rw [h₂, liftExcept_ok_bind]
    dsimp only
    rw [h₃, liftExcept_ok_bind, run_tryCatch_bind_ok (run_lookupNode_of (d := d.record _) hl),
      run_tryCatch_bind_ok (run_constructGroup _ _ _),
      run_tryCatch_error (run_bind_error (run_insertNode_error (NodeMap.insert_eq_error hrefused)) _)]
    rfl
  -- The handler writes the channel only.
  have hframe : Keeps (fun d' : Dispatcher => d'.nodes = d.nodes ∧
      d'.tree = addToTail d.tree (targetGroup target) d.nextInst)
      (replyError kMethcla_Notification (Exception.error .nodeIdError).what >>= fun _ => pure true) :=
    Keeps.bind (Keeps.get_bind fun _ hd => by split <;> exact hd) fun _ => Keeps.pure _
  rw [hrun]
  exact hframe _ ⟨rfl, rfl⟩

theorem group_new_refused_keeps_link_root :
    (endState ((processMessageA 0 ⟨"/group/new", [.int32 0, .int32 0, .int32 0]⟩).run
        (Environment.init (α := Int) ⟨48000, 64, 0, 0, 16, 0, 1024⟩ (fun _ _ => 0)
          ⟨16, [Environment.rootGroup], List.nodup_singleton _⟩).dispatcher)).nodes =
        ⟨16, [Environment.rootGroup], List.nodup_singleton _⟩ ∧
      (endState ((processMessageA 0 ⟨"/group/new", [.int32 0, .int32 0, .int32 0]⟩).run
        (Environment.init (α := Int) ⟨48000, 64, 0, 0, 16, 0, 1024⟩ (fun _ _ => 0)
          ⟨16, [Environment.rootGroup], List.nodup_singleton _⟩).dispatcher)).tree = [(0, 1)] :=
  group_new_refused_keeps_link 0 ⟨"/group/new", [.int32 0, .int32 0, .int32 0]⟩
    (Environment.init (α := Int) ⟨48000, 64, 0, 0, 16, 0, 1024⟩ (fun _ _ => 0)
      ⟨16, [Environment.rootGroup], List.nodup_singleton _⟩).dispatcher rfl rfl rfl rfl rfl (.inl rfl)

end Dispatcher

end Methcla

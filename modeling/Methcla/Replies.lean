import Methcla.Worker
/-!
The client's error replies (`Engine.cpp`: `Environment::replyError`, `sendToWorker`,
`perform_response_error`, the worker threads and the audio thread's `perform` loop).

Each `replyError` that returns raises one `/error` message (`Channel.raised`). The code
delivers it through the worker channel: `replyError` puts an `ErrorData` command at the tail
of the worker's queue, a worker thread takes the oldest command, and `perform_response_error`
replies before it hands the block back. `m_worker(kQueueSize, 2)` runs two worker threads, so
two error commands can be taken in one order and performed in the other: the client does not
see the errors in the order they were raised. What holds is that each raised error is
delivered exactly once, and that the raise order survives for the errors no thread has taken.

`Channel.waiting` lists the replies the commands in the worker's queue will make, and
`Channel.taken` those of the commands the two threads hold. Under any interleaving of the
audio thread and the two worker threads, the errors raised so far are some arrangement of
the replies delivered and taken, followed by the waiting ones in raise order
(`error_replies_delivered_once`): a raise appends to the waiting part, a take moves the
oldest waiting reply to the taken part, and a perform moves a taken reply to the delivered
part. The one fact about the channel this needs is that no command on the audio thread's
queue replies (`Channel.Inv.queued`). Draining the queues therefore delivers every error
raised, each once.
-/

set_option autoImplicit false

namespace Methcla

/-- The reply a command makes when it is performed: the message its data holds if its perform
function replies, nothing otherwise. -/
def Command.reply (cmd : Command) : List Osc.Message :=
  if Action.reply ∈ cmd.perform.body then Channel.replyOf cmd.data.payload else []

namespace Channel

/-- The replies the commands in the worker's queue will make, in queue order. -/
def waiting (c : Channel) : List Osc.Message := c.toWorker.flatMap Command.reply

/-- The replies the commands the two worker threads took will make. -/
def taken (c : Channel) : List Osc.Message := (c.running 0 ++ c.running 1).flatMap Command.reply

/-- The `/error` message a step raises: a `replyError` whose `ErrorData` the arena can hold
raises one, and no other step raises any. -/
def Step.raised (c : Channel) : Step → List Osc.Message
  | .replyError rid msg =>
    match c.replyError rid msg with
    | .ok _ => replyOf (.errorData rid msg)
    | .error _ => []
  | _ => []

/-- The abstract queue: the `/error` messages a run of steps raises, in order. -/
def raised : Channel → List Step → List Osc.Message
  | _, [] => []
  | c, s :: steps => s.raised c ++ raised (c.step s) steps

/-- The errors `R` are the replies delivered and taken, in some order, followed by the waiting
ones in order. -/
def Delivers (R : List Osc.Message) (c : Channel) : Prop :=
  ∃ P, R = P ++ c.waiting ∧ P.Perm (c.replies ++ c.taken)

/-- A step that moves replies `M` from the head of the waiting part to the delivered and taken
parts, and appends the raised `E` to the waiting part, keeps `Delivers`. -/
theorem Delivers.move {R : List Osc.Message} {c c' : Channel} (h : c.Delivers R)
    (M E : List Osc.Message) (hw : c.waiting ++ E = M ++ c'.waiting)
    (hp : (c.replies ++ c.taken ++ M).Perm (c'.replies ++ c'.taken)) : c'.Delivers (R ++ E) := by
  obtain ⟨P, rfl, hP⟩ := h
  exact ⟨P ++ M, by rw [List.append_assoc, hw, List.append_assoc], (hP.append_right M).trans hp⟩

/-! ## One statement, one perform, one producer -/

section Statements

variable (t : Thread) (d : CommandData) (c : Channel)

theorem act_replies (a : Action) :
    (c.act t d a).replies = c.replies ++ if a = .reply then replyOf d.payload else [] := by
  cases a with
  | read => simp only [act]; split <;> simp
  | free a => cases a <;> simp [act, free]
  | send q f => cases q <;> simp [act, send]
  | callback | reply => simp [act]

theorem act_toWorker (a : Action) :
    (c.act t d a).toWorker = c.toWorker ++ match a with
      | .send .toWorker f => [⟨f, d⟩]
      | _ => [] := by
  cases a with
  | read => simp only [act]; split <;> simp
  | free a => cases a <;> simp [act, free]
  | send q f => cases q <;> simp [act, send]
  | callback | reply => simp [act]

theorem act_running (a : Action) :
    (c.act t d a).running = match a with
      | .send (.running i) f => Function.update c.running i (c.running i ++ [⟨f, d⟩])
      | _ => c.running := by
  cases a with
  | read => simp only [act]; split <;> rfl
  | free a => cases a <;> rfl
  | send q f => cases q <;> rfl
  | callback | reply => rfl

end Statements

/-- A perform makes its command's reply, queues for the worker only commands that make none,
and leaves the worker threads' commands alone. -/
theorem perform_transit (t : Thread) (cmd : Command) (c : Channel) :
    (perform t cmd c).replies = c.replies ++ cmd.reply ∧ (perform t cmd c).waiting = c.waiting ∧
      (perform t cmd c).taken = c.taken := by
  obtain ⟨f, d⟩ := cmd
  cases f <;>
    simp [perform, PerformFunc.body, act_replies, act_toWorker, act_running, Command.reply, waiting, taken]

/-- A producer's command adds its reply to the waiting ones when it goes to the worker. -/
theorem attach_transit (c : Channel) (f : PerformFunc) (p : Ptr) (payload : Payload) :
    (c.attach f p payload).replies = c.replies ∧ (c.attach f p payload).taken = c.taken ∧
      (c.attach f p payload).waiting =
        c.waiting ++ if f.queue = .toWorker then Command.reply ⟨f, ⟨p, payload⟩⟩ else [] := by
  cases f <;> simp [attach, send, waiting, taken, PerformFunc.queue]

/-- A producer attaching a command that goes to the audio thread or makes no reply leaves the
replies where they were. -/
theorem Delivers.attach {R : List Osc.Message} {c : Channel} (h : c.Delivers R) (f : PerformFunc)
    (p : Ptr) (payload : Payload) :
    (c.attach f p payload).Delivers
      (R ++ if f.queue = .toWorker then Command.reply ⟨f, ⟨p, payload⟩⟩ else []) := by
  obtain ⟨h₁, h₂, h₃⟩ := attach_transit c f p payload
  exact h.move [] _ (by rw [h₃, List.nil_append]) (by rw [h₁, h₂, List.append_nil])

/-- A `replyError` that returns puts its `/error` message at the tail of the waiting ones. -/
theorem Delivers.replyError {R : List Osc.Message} {c c' : Channel} (h : c.Delivers R)
    {rid : BitVec 32} {msg : String} (hr : c.replyError rid msg = .ok c') :
    c'.Delivers (R ++ replyOf (.errorData rid msg)) := by
  unfold Channel.replyError at hr
  split at hr
  · cases hr
    simpa [Command.reply, PerformFunc.body, PerformFunc.queue] using
      (show Delivers R { c with rtMem := _ } from h).attach .perform_response_error _ (.errorData rid msg)
  · cases hr

/-- `methcla_api_world_perform_command` queues a command that makes no reply. -/
theorem Delivers.world_perform_command {R : List Osc.Message} {c c' : Channel} (h : c.Delivers R)
    (hr : c.world_perform_command = .ok c') : c'.Delivers R := by
  unfold Channel.world_perform_command at hr
  split at hr
  · cases hr
    simpa [Command.reply, PerformFunc.body, PerformFunc.queue] using
      (show Delivers R { c with rtMem := _ } from h).attach .perform_hostCommand _ .callbackData
  · cases hr

/-- The audio thread's queue holds no command that replies. -/
theorem Inv.reply_fromWorker {c : Channel} (hc : c.Inv) {cmd : Command} (h : cmd ∈ c.fromWorker) :
    cmd.reply = [] := by
  have hq : cmd.perform.queue = .fromWorker := hc.queued .fromWorker cmd h
  obtain ⟨f, d⟩ := cmd
  cases f <;> simp_all [PerformFunc.queue, Command.reply, PerformFunc.body]

/-- Setting worker thread `i`'s commands to `l` swaps their replies for those of `l`. -/
theorem taken_setRunning (c : Channel) (i : Fin 2) (l : List Command) :
    (c.taken ++ l.flatMap Command.reply).Perm
      ((c.setQueue (.running i) l).taken ++ (c.running i).flatMap Command.reply) := by
  rw [List.perm_iff_count]; intro a
  fin_cases i <;> simp [taken, setQueue, Function.update_apply] <;> omega

/-! ## Runs -/

section Runs

variable {c : Channel} {R : List Osc.Message}

/-- **One step keeps the delivery**: a raise waits at the tail, a take moves the oldest waiting
reply to the taken ones, and a perform delivers its command's reply. -/
theorem Inv.step_delivers (hc : c.Inv) (h : c.Delivers R) (s : Step) :
    (c.step s).Delivers (R ++ s.raised c) := by
  cases s with
  | replyError rid msg =>
    simp only [Channel.step, Step.raised]
    rcases hr : c.replyError rid msg with e | c'
    · simpa using h
    · exact h.replyError hr
  | world_perform_command =>
    simp only [Channel.step, Step.raised, List.append_nil]
    rcases hr : c.world_perform_command with e | c'
    · exact h
    · exact h.world_perform_command hr
  | host_perform_command =>
    simp only [Channel.step, Step.raised, host_perform_command]
    simpa [PerformFunc.queue] using
      (show Delivers R { c with heap := c.heap.alloc.2 } from h).attach .perform_worldCommand _ _
  | request_new => simpa [Channel.step, Step.raised, request_new] using h
  | request_release b =>
    simp only [Channel.step, Step.raised, request_release, List.append_nil]
    split
    · simpa [Command.reply, PerformFunc.body, PerformFunc.queue] using
        (show Delivers R { c with held := c.held.erase b } from h).attach .perform_free_data _
          .packetData
    · exact h
  | audio_perform =>
    simp only [Channel.step, Step.raised, List.append_nil]
    split
    · exact h
    · rename_i cmd rest hq
      obtain ⟨h₁, h₂, h₃⟩ := perform_transit .audio cmd { c with fromWorker := rest }
      simpa using h.move [] [] (by rw [h₂]; simp [waiting])
        (by rw [h₁, h₃, hc.reply_fromWorker (hq ▸ List.mem_cons_self cmd rest)]; simp [taken])
  | worker_take i =>
    simp only [Channel.step, Step.raised, List.append_nil]
    split
    · rename_i cmd rest hi hq
      have := taken_setRunning c i [cmd]
      rw [hi, List.flatMap_nil, List.append_nil] at this
      simpa using h.move cmd.reply [] (by simp [waiting, hq])
        (by simpa [List.append_assoc] using this.append_left c.replies)
    · exact h
  | worker_perform i =>
    simp only [Channel.step, Step.raised, List.append_nil]
    split
    · exact h
    · rename_i cmd rest hq
      obtain ⟨h₁, h₂, h₃⟩ := perform_transit .worker cmd { c with running := Function.update c.running i rest }
      have := taken_setRunning c i rest
      rw [hq, List.flatMap_cons, ← List.append_assoc, List.perm_append_right_iff] at this
      simpa using h.move [] [] (by rw [h₂]; simp [waiting]) (by
        rw [h₁, h₃, List.append_nil, List.append_assoc]
        exact List.Perm.append_left _ (this.trans List.perm_append_comm))

/-- **A run keeps the delivery**: what it raises waits at the tail, in order. -/
theorem Inv.foldl_delivers (steps : List Step) (hc : c.Inv) (h : c.Delivers R) :
    (steps.foldl Channel.step c).Delivers (R ++ raised c steps) := by
  induction steps generalizing c R with
  | nil => simpa [raised] using h
  | cons s steps ih =>
    rw [List.foldl_cons, raised, ← List.append_assoc]
    exact ih (hc.step s) (hc.step_delivers h s)

/-- Draining raises nothing. -/
theorem Inv.drain_delivers (hc : c.Inv) (h : c.Delivers R) (n : Nat) : (c.drain n).Delivers R := by
  induction n generalizing c with
  | zero => exact h
  | succ n ih =>
    have next : ∀ s, s.raised c = [] → ((c.step s).drain n).Delivers R := fun s hs =>
      ih (hc.step s) (by simpa [hs] using hc.step_delivers h s)
    rw [Channel.drain]
    split
    · exact next _ rfl
    · exact next _ rfl
    · exact next _ rfl
    · exact next _ rfl
    · exact h

end Runs

end Channel

open Channel in
/-- **Each error reply reaches the client exactly once.** Under any interleaving of the audio
thread and the two worker threads, starting from an empty channel: the `/error` messages of
the `replyError` calls that returned, in call order, are the replies the client has received
and those the worker threads hold, in some order, followed by those of the commands still in
the worker's queue, in call order; and draining the queues delivers every one of them, once.
The client can receive two errors in the other order when the threads perform them so. -/
theorem error_replies_delivered_once (rtSize : Nat) (steps : List Step) :
    let c := steps.foldl Channel.step (Channel.new rtSize)
    (∃ P, raised (Channel.new rtSize) steps = P ++ c.waiting ∧ P.Perm (c.replies ++ c.taken)) ∧
      (c.drain c.load).replies.Perm (raised (Channel.new rtSize) steps) := by
  intro c
  have hc : c.Inv := inv_foldl steps (inv_new rtSize)
  have hrun : c.Delivers (raised (Channel.new rtSize) steps) := by
    have := (inv_new rtSize).foldl_delivers steps ⟨[], rfl, .refl _⟩
    rwa [List.nil_append] at this
  refine ⟨hrun, ?_⟩
  obtain ⟨-, hnil, -⟩ := hc.drain c.load le_rfl
  obtain ⟨P, hR, hP⟩ := hc.drain_delivers hrun c.load
  simp only [inflight, List.append_eq_nil] at hnil
  simp only [waiting, taken, hnil, List.flatMap_nil, List.append_nil] at hR hP
  rw [hR]
  exact hP.symm

end Methcla

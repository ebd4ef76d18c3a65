import Methcla.Routing
/-!
Which synth `Synth::activate` is called on (`Engine.cpp`: Phase B of `/synth/new`).

Phase B of `/synth/new` looks the synth up by the node id the message names and activates
whatever synth is registered under it. Phase A answers `true` also when it fails, so
Phase B runs for a `/synth/new` that constructed nothing, and it activates the synth that
already carries the id (`synth_activated_twice`). What holds over every run is the link
between an activation and the entry it answers: each activation comes right after the
Phase-B entry of a `/synth/new` that names the id the activated synth is registered under
(`activation_follows_its_synthNew`). So one Phase-B entry activates at most one synth.
-/

set_option autoImplicit false

namespace Methcla

/-- Whether `e'` may come right after `e` in the trace: an activation only right after the
Phase-B entry of a `/synth/new` that names the activated synth's id. -/
def Event.Licenses (e : Event) : Event → Prop
  | .activate id _ _ =>
    match e with
    | .phaseB _ msg _ => msg.address = "/synth/new" ∧ Dispatcher.synthNewNodeId msg.args = some id
    | _ => False
  | _ => True

theorem Event.licenses_of_isActivate {e : Event} (he : e.isActivate = false) (e₀ : Event) :
    e₀.Licenses e := by
  cases e <;> first | exact True.intro | cases he

/-- Every activation in the trace comes right after the Phase-B entry of a `/synth/new`
naming the activated synth's id. -/
def ActivationsLicensed (trace : List Event) : Prop :=
  trace.Chain' Event.Licenses ∧ ∀ e ∈ trace.head?, e.isActivate = false

namespace ActivationsLicensed

variable {T : List Event}

theorem nil : ActivationsLicensed [] := ⟨List.chain'_nil, fun _ h => nomatch h⟩

theorem append_event (h : ActivationsLicensed T) {e : Event} (he : e.isActivate = false) :
    ActivationsLicensed (T ++ [e]) := by
  refine ⟨List.chain'_append.2 ⟨h.1, List.chain'_singleton _, fun x _ y hy => ?_⟩, ?_⟩
  · obtain rfl : y = e := by simpa using hy.symm
    exact Event.licenses_of_isActivate he x
  · cases T with
    | nil => simpa using he
    | cons a T => exact h.2

theorem append_activation (h : ActivationsLicensed T) {rid : Nat} {msg : Osc.Message}
    {scheduleTime sampleOffset : Time} {node : Node} (hA : msg.address = "/synth/new")
    (hid : Dispatcher.synthNewNodeId msg.args = some node.id) :
    ActivationsLicensed
      (T ++ [.phaseB rid msg scheduleTime, .activate node.id node.inst sampleOffset]) := by
  have hB := h.append_event (e := .phaseB rid msg scheduleTime) rfl
  refine ⟨?_, ?_⟩
  · rw [← List.singleton_append, ← List.append_assoc]
    refine List.chain'_append.2 ⟨hB.1, List.chain'_singleton _, fun x hx y hy => ?_⟩
    obtain rfl : x = .phaseB rid msg scheduleTime := by simpa using hx.symm
    obtain rfl : y = .activate node.id node.inst sampleOffset := by simpa using hy.symm
    exact ⟨hA, hid⟩
  · cases T with
    | nil => intro e he; simp at he; subst he; rfl
    | cons a T => exact h.2

/-- In a licensed trace, the event before an activation is the Phase-B entry of a
`/synth/new` naming its id. -/
theorem before_activation (h : ActivationsLicensed T) {pre post : List Event} {id : NodeId}
    {inst : Nat} {sampleOffset : Time} (hT : T = pre ++ .activate id inst sampleOffset :: post) :
    ∃ rid msg scheduleTime, pre.getLast? = some (.phaseB rid msg scheduleTime) ∧
      msg.address = "/synth/new" ∧ Dispatcher.synthNewNodeId msg.args = some id := by
  subst hT
  rcases List.eq_nil_or_concat pre with rfl | ⟨pre, x, rfl⟩
  · exact absurd (h.2 _ rfl) (by simp [Event.isActivate])
  · rw [List.concat_eq_append] at h ⊢
    have hc := h.1
    rw [List.append_assoc, List.singleton_append] at hc
    have hx : x.Licenses (.activate id inst sampleOffset) :=
      (List.chain'_append_cons_cons.1 hc).2.1
    cases x <;> simp only [Event.Licenses] at hx
    exact ⟨_, _, _, List.getLast?_concat .., hx⟩

end ActivationsLicensed

namespace Dispatcher

/-- **The trace stays licensed through every dispatch**: Phase A logs only its entry,
Phase B its entry and at most the activation that entry licenses, and nothing else logs an
activation. -/
theorem activationsLicensed_invariant : DispatchInvariant (fun d => ActivationsLicensed d.trace) where
  messageA rid msg d h := by
    rw [processMessageA_trace]
    exact h.append_event rfl
  messageB rid msg scheduleTime currentTime d h := by
    rcases processMessageB_trace rid msg scheduleTime currentTime d with h' | ⟨node, hA, hid, h'⟩ <;>
      rw [h']
    · exact h.append_event rfl
    · exact h.append_activation hA hid
  log _ he _ h := h.append_event he
  channel _ _ h := h
  synthDefs _ _ h := h

end Dispatcher

namespace Environment

open Dispatcher

variable {α : Type} [Add α] [Zero α]

/-- **Every activation answers the Phase-B `/synth/new` entry right before it.** In every
state a run reaches from a constructed engine, each `Synth::activate` in the trace comes
right after the Phase-B entry of a `/synth/new` whose node-id argument is the id the
activated synth is registered under. -/
theorem activation_follows_its_synthNew {options : Options} {data : Bus → Buffer α}
    {env : Environment α} (h : new options data = .ok env) (inputs : List (Input α)) :
    ∀ pre post id inst sampleOffset,
      (env.run inputs).dispatcher.trace = pre ++ .activate id inst sampleOffset :: post →
      ∃ rid msg scheduleTime, pre.getLast? = some (.phaseB rid msg scheduleTime) ∧
        msg.address = "/synth/new" ∧ synthNewNodeId msg.args = some id := by
  obtain ⟨nodes, _, rfl⟩ := new_ok h
  intro pre post id inst sampleOffset hT
  exact (activationsLicensed_invariant.run ActivationsLicensed.nil inputs).before_activation hT

theorem activation_follows_its_synthNew_stereo :
    Environment.new (α := Int) ⟨48000, 64, 0, 2, 16, 16, 1024⟩ (fun _ _ => 0) =
        .ok (init ⟨48000, 64, 0, 2, 16, 16, 1024⟩ (fun _ _ => 0)
          ⟨16, [rootGroup], List.nodup_singleton _⟩) ∧
      ∀ pre post id inst sampleOffset,
        ((init (α := Int) ⟨48000, 64, 0, 2, 16, 16, 1024⟩ (fun _ _ => 0)
          ⟨16, [rootGroup], List.nodup_singleton _⟩).run [.registerSynthDef ⟨"sine", 0, 0, 1, 0⟩,
            .send (.message ⟨"/synth/new", [.string "sine", .int32 1, .int32 0, .int32 0]⟩),
            .process 0 64 (fun _ _ => 0) (fun _ _ => 0) []]).dispatcher.trace =
          pre ++ .activate id inst sampleOffset :: post →
        ∃ rid msg scheduleTime, pre.getLast? = some (.phaseB rid msg scheduleTime) ∧
          msg.address = "/synth/new" ∧ synthNewNodeId msg.args = some id :=
  have h : Environment.new (α := Int) ⟨48000, 64, 0, 2, 16, 16, 1024⟩ (fun _ _ => 0) =
      .ok (init ⟨48000, 64, 0, 2, 16, 16, 1024⟩ (fun _ _ => 0)
        ⟨16, [rootGroup], List.nodup_singleton _⟩) := rfl
  ⟨h, activation_follows_its_synthNew h _⟩

/-- A bundle with time tag 1 holding two `/synth/new` messages for node 1, the second naming
a definition that is not registered. Phase A constructs synth 1 for the first and fails on
the second, answering `true` all the same; Phase B then activates synth 1 once per message. -/
theorem synth_activated_twice :
    ∃ env, Environment.new (α := Int) ⟨48000, 64, 0, 2, 16, 16, 1024⟩ (fun _ _ => 0) = .ok env ∧
      (env.run [.registerSynthDef ⟨"sine", 0, 0, 1, 0⟩,
          .send (.bundle 1 [.message ⟨"/synth/new", [.string "sine", .int32 1, .int32 0, .int32 0]⟩,
            .message ⟨"/synth/new", [.string "saw", .int32 1, .int32 0, .int32 0]⟩]),
          .process 0 64 (fun _ _ => 0) (fun _ _ => 0) []]).dispatcher.trace.count
        (.activate 1 1 0) = 2 := by
  obtain ⟨d₁, node, s, hA, hcount, hl, hk, hid, hinst⟩ : ∃ d₁ node s,
      (processPacketA 0 (.bundle 1 [.message ⟨"/synth/new", [.string "sine", .int32 1, .int32 0, .int32 0]⟩,
          .message ⟨"/synth/new", [.string "saw", .int32 1, .int32 0, .int32 0]⟩])).run
        ((init (α := Int) ⟨48000, 64, 0, 2, 16, 16, 1024⟩ (fun _ _ => 0)
          ⟨16, [rootGroup], List.nodup_singleton _⟩).registerSynthDef ⟨"sine", 0, 0, 1, 0⟩).dispatcher =
        .ok true d₁ ∧ d₁.trace.count (.activate 1 1 0) = 0 ∧
      d₁.nodes.lookup 1 = some node ∧ node.kind = .synth s ∧ node.id = 1 ∧ node.inst = 1 :=
    ⟨_, _, _, by with_unfolding_all rfl, by with_unfolding_all decide, by with_unfolding_all rfl, rfl,
      by with_unfolding_all rfl, by with_unfolding_all rfl⟩
  rw [← hid] at hl
  -- Phase B: both messages find synth 1 and activate it.
  obtain ⟨env', hrun, htrace⟩ := process_single_immediate
    (((init (α := Int) ⟨48000, 64, 0, 2, 16, 16, 1024⟩ (fun _ _ => 0)
      ⟨16, [rootGroup], List.nodup_singleton _⟩).registerSynthDef ⟨"sine", 0, 0, 1, 0⟩).send
      (.bundle 1 [.message ⟨"/synth/new", [.string "sine", .int32 1, .int32 0, .int32 0]⟩,
        .message ⟨"/synth/new", [.string "saw", .int32 1, .int32 0, .int32 0]⟩]))
    0 64 (fun _ _ => 0) (fun _ _ => 0) [] rfl rfl rfl hA (by
      rw [processPacketB_eq]
      refine (run_bind_ok (processMessageB_synthNew (d := d₁.record _) ?_ ?_ hl hk) _).trans ?_
      · rfl
      · rw [hid]; rfl
      exact (run_bind_ok (processMessageB_synthNew (d := { d₁.record _ with nodes := _, trace := _ })
        rfl (by rw [hid]; rfl) (NodeMap.lookup_updateSynth_self hl hk) rfl) _).trans rfl)
  refine ⟨init ⟨48000, 64, 0, 2, 16, 16, 1024⟩ (fun _ _ => 0) ⟨16, [rootGroup], List.nodup_singleton _⟩,
    rfl, ?_⟩
  simp only [run, List.foldl, step]
  rw [hrun, endState_ok, htrace]
  simpa [hid, hinst] using hcount

end Environment

end Methcla

import Mathlib.Data.BitVec
/-!
Audio buses, epochs, and the connections synths read and write them through
(`Mescaline/Audio/Synth.hpp`: `AudioInputConnection::read`,
`AudioOutputConnection::write`; `Engine.cpp`: the epoch the environment keeps).

A bus is a sample buffer tagged with the epoch of the block that last wrote it. A read
sees the buffer only when the tag is the current epoch, and silence otherwise; the first
write of a block copies and retags, later writes add. That one rule is the engine's mixer.

The sample type is left open (`sample_t` is `float`): the laws below need only its `+` and
its `0`, and they are stated as the write-ordered sum `((s₁ + s₂) + s₃) + …` exactly as the
code accumulates, so nothing depends on `+` being associative. A buffer is the function
from frame index to sample; a call touches only the frames below `numFrames`.

`Epoch` is 64 bits. The constructor tags every bus `epoch() - 1`, which wraps to
`2^64 - 1`; the laws hold for runs shorter than `2^64 - 1` blocks, and `Methcla.Mix` shows
what goes wrong past that.

The connection types are stored and never read, so a `kReplaceOut` write accumulates like a
`kOut` one (`replaceOut_write_accumulates`), and a `kInFeedback` read of a bus written in the
previous block is silence (`inFeedback_read_misses_previous_block`).
-/

set_option autoImplicit false

namespace Methcla

/-- `Epoch`: the 64-bit block counter. -/
abbrev Epoch := BitVec 64

/-- `m_epoch++` does not wrap before `2^64 - 1`. -/
theorem Epoch.toNat_succ {e : Epoch} (h : e.toNat < 2 ^ 64 - 1) : (e + 1).toNat = e.toNat + 1 := by
  rw [BitVec.toNat_add]
  have : (1 : Epoch).toNat = 1 := rfl
  omega

/-- A sample buffer, by frame index. -/
abbrev Buffer (α : Type) := Nat → α

namespace Buffer

variable {α : Type}

/-- `memcpy(dst, src, n * sizeof(sample_t))`. -/
def copy (n : Nat) (src dst : Buffer α) : Buffer α := fun i => if i < n then src i else dst i

/-- `memset(dst, 0, n * sizeof(sample_t))`. -/
def zero [Zero α] (n : Nat) (dst : Buffer α) : Buffer α := fun i => if i < n then 0 else dst i

/-- `for (i < n) dst[i] += src[i]`. -/
def accumulate [Add α] (n : Nat) (src dst : Buffer α) : Buffer α :=
  fun i => if i < n then dst i + src i else dst i

/-- The sample-wise sum of the buffers written to a bus in one block, in write order: the
first write copied, each later one added. Silence when nothing was written. -/
def mixAt [Add α] [Zero α] : List (Buffer α) → Nat → α
  | [], _ => 0
  | s :: rest, i => rest.foldl (fun acc t => acc + t i) (s i)

@[simp] theorem copy_apply (n : Nat) (src dst : Buffer α) (i : Nat) (h : i < n) :
    copy n src dst i = src i := if_pos h
@[simp] theorem zero_apply [Zero α] (n : Nat) (dst : Buffer α) (i : Nat) (h : i < n) :
    zero n dst i = 0 := if_pos h
@[simp] theorem accumulate_apply [Add α] (n : Nat) (src dst : Buffer α) (i : Nat) (h : i < n) :
    accumulate n src dst i = dst i + src i := if_pos h

theorem mixAt_append [Add α] [Zero α] (ws : List (Buffer α)) (s : Buffer α) (i : Nat)
    (h : ws ≠ []) : mixAt (ws ++ [s]) i = mixAt ws i + s i := by
  obtain ⟨w, ws, rfl⟩ := List.exists_cons_of_ne_nil h
  simp [mixAt]

end Buffer

/-- `AudioBus`: its buffer and the epoch of the block that last wrote it. The lock is left
out: in the single audio thread it never blocks (spec §4.6). -/
structure AudioBus (α : Type) where
  data : Buffer α
  epoch : Epoch

/-- `InputConnectionType`. -/
inductive InputConnectionType where
  | kIn
  | kInFeedback
  deriving Repr, DecidableEq

/-- `OutputConnectionType`. -/
inductive OutputConnectionType where
  | kOut
  | kReplaceOut
  deriving Repr, DecidableEq

/-- `Connection<BusId, ConnectionType>`: the port, the bus (`none` for an invalid id, which
`if (busId())` rejects) and the connection type. -/
structure Connection (ι κ : Type) where
  index : Nat
  busId : Option ι
  type : κ
  deriving Repr, DecidableEq

variable {ι α : Type}

/-- `Connection::connect(busId, type)`: rebind, and report whether the bus changed. -/
def Connection.connect {κ : Type} [DecidableEq ι] (c : Connection ι κ) (busId : Option ι)
    (type : κ) : Connection ι κ × Bool :=
  ({ c with busId := busId, type := type }, busId ≠ c.busId)

/-- `AudioInputConnection`, over bus ids `ι`. -/
abbrev AudioInputConnection (ι : Type) := Connection ι InputConnectionType

/-- `AudioOutputConnection`, over bus ids `ι`. Its `m_offset` and `m_buffer` belong to the
synth's scratch memory, which `write` does not use. -/
abbrev AudioOutputConnection (ι : Type) := Connection ι OutputConnectionType

/-- What a connection sees of the environment: `env.epoch()` and `env.audioBus(id)`. -/
structure Buses (ι α : Type) where
  epoch : Epoch
  bus : ι → AudioBus α

/-- `AudioInputConnection::read(env, numFrames, dst)`: the bus's samples if it was written
in this epoch, silence if not, silence if the input is unmapped. -/
def AudioInputConnection.read [Zero α] (c : AudioInputConnection ι) (env : Buses ι α)
    (numFrames : Nat) (dst : Buffer α) : Buffer α :=
  match c.busId with
  | some id =>
    if (env.bus id).epoch = env.epoch then Buffer.copy numFrames (env.bus id).data dst
    else Buffer.zero numFrames dst
  | none => Buffer.zero numFrames dst

/-- The bus after `AudioOutputConnection::write` has written `src` to it at epoch `epoch`:
accumulate if it was already written in this epoch, else copy and retag. -/
def AudioBus.write [Add α] (bus : AudioBus α) (epoch : Epoch) (numFrames : Nat)
    (src : Buffer α) : AudioBus α :=
  if bus.epoch = epoch then { bus with data := Buffer.accumulate numFrames src bus.data }
  else ⟨Buffer.copy numFrames src bus.data, epoch⟩

/-- `AudioOutputConnection::write(env, numFrames, src)`. -/
def AudioOutputConnection.write [Add α] [DecidableEq ι] (c : AudioOutputConnection ι)
    (env : Buses ι α) (numFrames : Nat) (src : Buffer α) : Buses ι α :=
  match c.busId with
  | some id =>
    { env with bus := Function.update env.bus id ((env.bus id).write env.epoch numFrames src) }
  | none => env

@[simp] theorem AudioBus.write_epoch [Add α] (bus : AudioBus α) (e : Epoch) (n : Nat)
    (src : Buffer α) : (bus.write e n src).epoch = e := by
  unfold AudioBus.write; split <;> simp_all

@[simp] theorem AudioOutputConnection.write_epoch [Add α] [DecidableEq ι]
    (c : AudioOutputConnection ι) (env : Buses ι α) (n : Nat) (src : Buffer α) :
    (c.write env n src).epoch = env.epoch := by
  unfold AudioOutputConnection.write; split <;> rfl

/-- A write through an unmapped output changes nothing. -/
theorem AudioOutputConnection.write_none [Add α] [DecidableEq ι] (c : AudioOutputConnection ι)
    (env : Buses ι α) (n : Nat) (src : Buffer α) (h : c.busId = none) : c.write env n src = env := by
  simp [AudioOutputConnection.write, h]

/-- A read through an unmapped input is silence. -/
theorem AudioInputConnection.read_none [Zero α] (c : AudioInputConnection ι) (env : Buses ι α)
    (n : Nat) (dst : Buffer α) (h : c.busId = none) : c.read env n dst = Buffer.zero n dst := by
  simp [AudioInputConnection.read, h]

/-! ## One block

Inside a block the graph reads and writes buses through its connections, all with the
block's `numFrames`. `Buses.Mixed s n ws` is the mixer's invariant, with `ws b` the buffers
written to `b` so far: a bus carries the current epoch exactly when it was written, and then
holds the write-ordered sum. It holds with nothing written when every tag is stale, and
each write keeps it. -/

/-- A bus access made by the graph during a block. -/
inductive BusOp (ι α : Type) where
  | read (c : AudioInputConnection ι) (dst : Buffer α)
  | write (c : AudioOutputConnection ι) (src : Buffer α)

/-- The buses after one access; a read changes none. -/
def BusOp.run [Add α] [DecidableEq ι] (n : Nat) (env : Buses ι α) : BusOp ι α → Buses ι α
  | .read _ _ => env
  | .write c src => c.write env n src

/-- The buffers the accesses `ops` write to bus `b`, in order. -/
def writesTo [DecidableEq ι] (b : ι) : List (BusOp ι α) → List (Buffer α)
  | [] => []
  | .read _ _ :: ops => writesTo b ops
  | .write c src :: ops => (if c.busId = some b then [src] else []) ++ writesTo b ops

/-- The mixer's invariant at `n` frames, with `ws b` the buffers written to `b` so far. -/
structure Buses.Mixed [Add α] [Zero α] (s : Buses ι α) (n : Nat) (ws : ι → List (Buffer α)) :
    Prop where
  epoch_iff : ∀ b, (s.bus b).epoch = s.epoch ↔ ws b ≠ []
  data : ∀ b, ws b ≠ [] → ∀ i < n, (s.bus b).data i = Buffer.mixAt (ws b) i

section Mixed

variable [Add α] [Zero α] {s : Buses ι α} {n : Nat} {ws : ι → List (Buffer α)}

/-- A block starts with nothing written when no bus carries the current epoch. -/
theorem Buses.mixed_nil (h : ∀ b, (s.bus b).epoch ≠ s.epoch) : s.Mixed n (fun _ => []) :=
  ⟨fun b => by simp [h b], fun _ h => absurd rfl h⟩

/-- Under the invariant a read returns the mix of what was written, or silence. -/
theorem Buses.Mixed.read_eq (hs : s.Mixed n ws) (c : AudioInputConnection ι) (dst : Buffer α)
    {b : ι} (hc : c.busId = some b) {i : Nat} (hi : i < n) :
    c.read s n dst i = Buffer.mixAt (ws b) i := by
  simp only [AudioInputConnection.read, hc]
  by_cases hw : ws b = []
  · have : (s.bus b).epoch ≠ s.epoch := fun h => (hs.epoch_iff b).1 h hw
    simp [this, hi, hw, Buffer.mixAt]
  · simp [(hs.epoch_iff b).2 hw, hi, hs.data b hw i hi]

variable [DecidableEq ι]

/-- **One write keeps the invariant**: the first write of a block copies, later ones add. -/
theorem Buses.Mixed.write (hs : s.Mixed n ws) (c : AudioOutputConnection ι) (src : Buffer α) :
    (c.write s n src).Mixed n (fun b => ws b ++ if c.busId = some b then [src] else []) := by
  rcases hc : c.busId with _ | b₀
  · simpa [AudioOutputConnection.write, hc] using hs
  refine ⟨fun b => ?_, fun b hb i hi => ?_⟩ <;>
    simp only [AudioOutputConnection.write, hc, Option.some.injEq] <;>
    rcases eq_or_ne b₀ b with rfl | hne
  · simp
  · simpa [Function.update_noteq hne.symm, hne] using hs.epoch_iff b
  · simp only [Function.update_same, if_true, AudioBus.write]
    by_cases hw : ws b₀ = []
    · have : (s.bus b₀).epoch ≠ s.epoch := fun h => (hs.epoch_iff b₀).1 h hw
      simp [this, hi, hw, Buffer.mixAt]
    · simp [(hs.epoch_iff b₀).2 hw, hi, hs.data b₀ hw i hi, Buffer.mixAt_append _ _ _ hw]
  · simp only [Function.update_noteq hne.symm, Option.some.injEq, hne, if_false,
      List.append_nil] at hb ⊢
    exact hs.data b hb i hi

/-- **A block's accesses keep the invariant**, each bus's writes appended in order. -/
theorem Buses.Mixed.run (hs : s.Mixed n ws) (ops : List (BusOp ι α)) :
    (ops.foldl (BusOp.run n) s).Mixed n (fun b => ws b ++ writesTo b ops) := by
  induction ops generalizing s ws with
  | nil => simpa [writesTo] using hs
  | cons op ops ih =>
    cases op with
    | read c dst => simpa [writesTo] using ih hs
    | write c src => simpa [writesTo, List.append_assoc] using ih (hs.write c src)

end Mixed

section Tags

variable [Add α] [DecidableEq ι] {s : Buses ι α} {n : Nat}

/-- A write tags only the bus it writes, with the current epoch. -/
theorem AudioOutputConnection.write_bus_epoch (c : AudioOutputConnection ι) (src : Buffer α)
    (b : ι) : ((c.write s n src).bus b).epoch = s.epoch ∨
      ((c.write s n src).bus b).epoch = (s.bus b).epoch := by
  rcases hc : c.busId with _ | b₀
  · simp [AudioOutputConnection.write, hc]
  · by_cases hb : b = b₀
    · subst hb; simp [AudioOutputConnection.write, hc]
    · simp [AudioOutputConnection.write, hc, Function.update_noteq hb]

@[simp] theorem Buses.run_epoch (ops : List (BusOp ι α)) :
    (ops.foldl (BusOp.run n) s).epoch = s.epoch := by
  induction ops generalizing s with
  | nil => rfl
  | cons op ops ih => cases op <;> simp [BusOp.run, ih]

/-- A block's accesses leave every bus's tag at the current epoch or where it was. -/
theorem Buses.run_bus_epoch (ops : List (BusOp ι α)) (b : ι) :
    ((ops.foldl (BusOp.run n) s).bus b).epoch = s.epoch ∨
      ((ops.foldl (BusOp.run n) s).bus b).epoch = (s.bus b).epoch := by
  induction ops generalizing s with
  | nil => exact .inr rfl
  | cons op ops ih =>
    have hop : ((op.run n s).bus b).epoch = s.epoch ∨
        ((op.run n s).bus b).epoch = (s.bus b).epoch := by
      cases op with
      | read c dst => exact .inr rfl
      | write c src => exact c.write_bus_epoch src b
    have hep : (op.run n s).epoch = s.epoch := by cases op <;> simp [BusOp.run]
    rcases ih (s := op.run n s) with h | h <;> rw [List.foldl_cons, h]
    · exact .inl hep
    · exact hop

end Tags

/-! ## From block to block -/

/-- Every bus tag lags the current epoch: it is older, or the constructor's `epoch() - 1`. -/
def Buses.Lagging (s : Buses ι α) : Prop :=
  ∀ b, (s.bus b).epoch.toNat < s.epoch.toNat ∨ (s.bus b).epoch = -1

/-- Before `epoch() - 1` comes round again, lagging tags are all stale. -/
theorem Buses.Lagging.stale {s : Buses ι α} (hs : s.Lagging) (he : s.epoch.toNat < 2 ^ 64 - 1)
    (b : ι) : (s.bus b).epoch ≠ s.epoch := by
  intro h
  rcases hs b with h' | h'
  · exact absurd (congrArg BitVec.toNat h) (Nat.ne_of_lt h')
  · rw [h'] at h
    exact absurd (congrArg BitVec.toNat h).symm (by simpa using Nat.ne_of_lt he)

/-- **The block-end increment keeps the tags lagging**, as long as the epoch does not wrap:
every tag is the block's epoch or the one it had before. -/
theorem Buses.Lagging.advance {s s' : Buses ι α} (hs : s.Lagging)
    (he : s.epoch.toNat < 2 ^ 64 - 1)
    (h : ∀ b, (s'.bus b).epoch = s.epoch ∨ (s'.bus b).epoch = (s.bus b).epoch) :
    ({ s' with epoch := s.epoch + 1 } : Buses ι α).Lagging := by
  intro b
  simp only [Epoch.toNat_succ he]
  rcases h b with h1 | h1 <;> rw [h1]
  · exact .inl (Nat.lt_succ_self _)
  · rcases hs b with h2 | h2
    · exact .inl (Nat.lt_succ_of_lt h2)
    · exact .inr h2

/-! ## Connection types

`connect` records an input's `kIn` or `kInFeedback` and an output's `kOut` or `kReplaceOut`,
but neither `read` nor `write` looks at it: every read is `kIn`, every write `kOut`. -/

/-- **A `kReplaceOut` write mixes like any other.** `AudioOutputConnection::write` never reads
the connection type `connect` set. So in a block whose earlier writes to bus `b` are `ws b`,
a write through a `kReplaceOut` connection to `b` leaves their mix plus its own samples: the
earlier accumulation is kept, not discarded. -/
theorem replaceOut_write_accumulates [Add α] [Zero α] [DecidableEq ι] {s : Buses ι α} {n : Nat}
    {ws : ι → List (Buffer α)} (hs : s.Mixed n ws) {b : ι} (hb : ws b ≠ []) (index : Nat)
    (src : Buffer α) {i : Nat} (hi : i < n) :
    ((AudioOutputConnection.write ⟨index, some b, .kReplaceOut⟩ s n src).bus b).data i =
      Buffer.mixAt (ws b) i + src i := by
  rw [(hs.write _ src).data b (by simp) i hi]
  simpa using Buffer.mixAt_append _ src i hb

theorem replaceOut_write_accumulates_after_out :
    Buses.Mixed (AudioOutputConnection.write ⟨0, some 0, .kOut⟩
        (⟨0, fun _ => ⟨fun _ : Nat => (0 : Int), -1⟩⟩ : Buses Nat Int) 64 fun _ : Nat => (2 : Int)) 64
      (fun b => [] ++ if some 0 = some b then [fun _ : Nat => (2 : Int)] else []) ∧
    ([] ++ if some 0 = some 0 then [fun _ : Nat => (2 : Int)] else []) ≠ [] ∧ 3 < 64 ∧
    ((AudioOutputConnection.write ⟨1, some 0, .kReplaceOut⟩
        (AudioOutputConnection.write ⟨0, some 0, .kOut⟩
          (⟨0, fun _ => ⟨fun _ : Nat => (0 : Int), -1⟩⟩ : Buses Nat Int) 64 fun _ : Nat => (2 : Int)) 64 fun _ : Nat => (3 : Int)).bus 0).data 3 =
      Buffer.mixAt ([] ++ if some 0 = some 0 then [fun _ : Nat => (2 : Int)] else []) 3 + 3 :=
  have hs : Buses.Mixed (AudioOutputConnection.write ⟨0, some 0, .kOut⟩
      (⟨0, fun _ => ⟨fun _ : Nat => (0 : Int), -1⟩⟩ : Buses Nat Int) 64 fun _ : Nat => (2 : Int)) 64
      (fun b => [] ++ if some 0 = some b then [fun _ : Nat => (2 : Int)] else []) :=
    (Buses.mixed_nil fun _ => show (-1 : Epoch) ≠ 0 by decide).write _ _
  have hb : ([] ++ if some 0 = some 0 then [fun _ : Nat => (2 : Int)] else []) ≠ [] := by simp
  ⟨hs, hb, by decide, replaceOut_write_accumulates hs hb 1 _ (by decide)⟩

/-- **A `kInFeedback` read does not reach back one block.** `AudioInputConnection::read` never
reads the connection type either: a bus last written in the previous block, whose epoch is
one behind the environment's, reads as silence through a `kInFeedback` connection. -/
theorem inFeedback_read_misses_previous_block [Zero α] (index : Nat) {b : ι} (s : Buses ι α)
    (he : (s.bus b).epoch + 1 = s.epoch) (n : Nat) (dst : Buffer α) :
    AudioInputConnection.read ⟨index, some b, .kInFeedback⟩ s n dst = Buffer.zero n dst := by
  have hne : (s.bus b).epoch ≠ s.epoch := by
    rw [← he]
    bv_omega
  simp [AudioInputConnection.read, hne]

theorem inFeedback_read_misses_previous_block_seven :
    ((⟨1, fun _ => ⟨fun _ => 7, 0⟩⟩ : Buses Nat Int).bus 0).epoch + 1 =
        (⟨1, fun _ => ⟨fun _ => 7, 0⟩⟩ : Buses Nat Int).epoch ∧
      AudioInputConnection.read ⟨0, some 0, .kInFeedback⟩
        (⟨1, fun _ => ⟨fun _ => 7, 0⟩⟩ : Buses Nat Int) 64 (fun _ => 0) =
        Buffer.zero 64 (fun _ => 0) :=
  have he : ((⟨1, fun _ => ⟨fun _ => 7, 0⟩⟩ : Buses Nat Int).bus 0).epoch + 1 =
      (⟨1, fun _ => ⟨fun _ => 7, 0⟩⟩ : Buses Nat Int).epoch := by decide
  ⟨he, inFeedback_read_misses_previous_block 0 _ he 64 _⟩

end Methcla

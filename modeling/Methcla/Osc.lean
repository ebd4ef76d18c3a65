import Mathlib.Data.List.Basic
/-!
The OSC side of the engine: what a request is once `OSCPP::Server::Packet` has parsed it,
how `ArgStream` hands out arguments, and the exceptions dispatch can raise.

A packet is a message or a bundle of packets nested to any depth; a bundle carries its
64-bit OSC time tag, with `1` meaning "immediately". Arguments are kept as the OSC wire
format has them: one type tag each, arrays as a `[` tag, their elements, and a `]` tag.
That is what `ArgStream::array()` scans, and it keeps `Arg` a plain inductive type with
decidable equality.

`OSCPP` itself is a library outside this repository. What is modelled of it is only what
`Engine.cpp` relies on: a read of the wrong type or past the end throws, and everything it
throws is a `std::exception`, so the handlers in `processMessage` and `processRequests`
catch it. Its exception texts are not this repository's and stay abstract.
-/

set_option autoImplicit false

namespace Methcla

/-! ## Exceptions -/

/-- The `Methcla_Error` codes `Engine.cpp` throws as `Methcla::Error`. -/
inductive ErrorCode where
  | nodeIdError
  | nodeTypeError
  deriving Repr, DecidableEq

/-- The C++ exceptions that can reach a handler in `Engine.cpp`. -/
inductive Exception where
  /-- `Methcla::Error(code)`. -/
  | error (code : ErrorCode)
  /-- `std::runtime_error(what)`. -/
  | runtimeError (what : String)
  /-- An `OSCPP` parse error: an argument of the wrong type, or a read past the end. -/
  | parseError
  /-- `std::bad_alloc`, thrown by `RTMemoryManager::alloc` when the arena is exhausted. -/
  | badAlloc
  deriving Repr, DecidableEq

/-- `e.what()`. Modelled from the spec: `Methcla/Exception.hpp` is not under src/, and the
spec's error replies name the code (`message="NodeIdError"`). -/
def Exception.what : Exception → String
  | .error .nodeIdError => "NodeIdError"
  | .error .nodeTypeError => "NodeTypeError"
  | .runtimeError what => what
  | .parseError => "OSC parse error"
  | .badAlloc => "std::bad_alloc"

namespace Osc

/-! ## Packets -/

/-- One OSC argument, by type tag. An OSC array is `arrayBegin`, its elements, `arrayEnd`. -/
inductive Arg where
  | int32 (v : BitVec 32)
  | float32 (bits : BitVec 32)
  | string (s : String)
  | arrayBegin
  | arrayEnd
  deriving Repr, DecidableEq

/-- `OSCPP::Server::Message`: an address pattern and its arguments. -/
structure Message where
  address : String
  args : List Arg
  deriving Repr, DecidableEq

/-- `OSCPP::Server::Packet`: a message, or a bundle with its time tag and elements. -/
inductive Packet where
  | message (m : Message)
  | bundle (time : UInt64) (elems : List Packet)
  deriving Repr

mutual
/-- The messages of a packet in depth-first document order. -/
def Packet.messages : Packet → List Message
  | .message m => [m]
  | .bundle _ elems => Packet.messagesOf elems

/-- The messages of a bundle's elements, in order. -/
def Packet.messagesOf : List Packet → List Message
  | [] => []
  | p :: ps => p.messages ++ Packet.messagesOf ps
end

@[simp] theorem Packet.messages_message (m : Message) : (Packet.message m).messages = [m] := rfl

@[simp] theorem Packet.messages_bundle (t : UInt64) (elems : List Packet) :
    (Packet.bundle t elems).messages = Packet.messagesOf elems := rfl

@[simp] theorem Packet.messagesOf_nil : Packet.messagesOf [] = [] := rfl

@[simp] theorem Packet.messagesOf_cons (p : Packet) (ps : List Packet) :
    Packet.messagesOf (p :: ps) = p.messages ++ Packet.messagesOf ps := rfl

/-! ## `ArgStream` -/

/-- `OSCPP::Server::ArgStream`: the arguments not read yet. -/
abbrev ArgStream := List Arg

/-- A read from an `ArgStream`: the value and the rest of the stream, or the exception. -/
abbrev ArgRead (α : Type) := Except Exception (α × ArgStream)

namespace ArgStream

/-- `args.int32()`. -/
def int32 : ArgStream → ArgRead (BitVec 32)
  | .int32 v :: rest => .ok (v, rest)
  | _ => .error .parseError

/-- `args.float32()`: the value's IEEE bits, which the engine stores unchanged. -/
def float32 : ArgStream → ArgRead (BitVec 32)
  | .float32 bits :: rest => .ok (bits, rest)
  | _ => .error .parseError

/-- `args.string()`. -/
def string : ArgStream → ArgRead String
  | .string s :: rest => .ok (s, rest)
  | _ => .error .parseError

/-- The elements of an array whose `[` was read at nesting depth `d`, and the stream after
its matching `]`; `none` when the `]` is missing. -/
def splitArray : Nat → ArgStream → Option (ArgStream × ArgStream)
  | _, [] => none
  | 0, .arrayEnd :: rest => some ([], rest)
  | d + 1, .arrayEnd :: rest => (splitArray d rest).map fun r => (.arrayEnd :: r.1, r.2)
  | d, .arrayBegin :: rest => (splitArray (d + 1) rest).map fun r => (.arrayBegin :: r.1, r.2)
  | d, a :: rest => (splitArray d rest).map fun r => (a :: r.1, r.2)

/-- `args.array()`: the elements of the next argument, which must be an array. -/
def array : ArgStream → ArgRead ArgStream
  | .arrayBegin :: rest =>
    match splitArray 0 rest with
    | some r => .ok r
    | none => .error .parseError
  | _ => .error .parseError

/-- `args.drop()`: skip the next argument, a whole array if it is one. -/
def drop : ArgStream → ArgRead Unit
  | [] => .error .parseError
  | .arrayBegin :: rest =>
    match splitArray 0 rest with
    | some r => .ok ((), r.2)
    | none => .error .parseError
  | .arrayEnd :: _ => .error .parseError
  | _ :: rest => .ok ((), rest)

/-- `args.atEnd()`. -/
def atEnd (args : ArgStream) : Bool := args.isEmpty

end ArgStream

end Osc

end Methcla

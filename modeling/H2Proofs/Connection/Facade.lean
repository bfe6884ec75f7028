import H2Proofs.Connection.StateMachine

/-!
# The connection façade

`H2Connection` holds a state machine, the stream map and the two negotiated frame sizes, and
each of its methods is `pass`. The stream objects, the frames and `_header_frames` are never
built or read, and are left out.
-/

namespace H2.Connection

/-- `H2Connection`: the machine, the stream ids of `self.streams`, and the frame sizes. -/
structure H2Connection where
  stateMachine : H2ConnectionStateMachine
  streams : List Nat
  maxOutboundFrameSize : Option Nat
  maxInboundFrameSize : Option Nat
  deriving DecidableEq, Repr

namespace H2Connection

/-- `__init__`; `client_side` is not read. -/
def new (_clientSide : Bool) : H2Connection := ⟨H2ConnectionStateMachine.init, [], none, none⟩

/-- A call of one of the methods, with the arguments that are numbers or flags. -/
inductive Operation
  | beginNewStream (streamId : Nat)
  | sendHeadersOnStream (streamId : Nat) (endStream : Bool)
  | sendDataOnStream (streamId : Nat) (endStream : Bool)
  | endStream (streamId : Nat)
  | incrementFlowControlWindow (increment : Int) (streamId : Option Nat)
  | pushStream (streamId relatedStreamId : Nat)
  | recieveFrame
  deriving DecidableEq, Repr

/-- A method call: each body is `pass`, so it returns `None` and changes nothing. -/
def perform (connection : H2Connection) : Operation → Option Unit × H2Connection
  | .beginNewStream _ => (none, connection)
  | .sendHeadersOnStream _ _ => (none, connection)
  | .sendDataOnStream _ _ => (none, connection)
  | .endStream _ => (none, connection)
  | .incrementFlowControlWindow _ _ => (none, connection)
  | .pushStream _ _ => (none, connection)
  | .recieveFrame => (none, connection)

end H2Connection

end H2.Connection

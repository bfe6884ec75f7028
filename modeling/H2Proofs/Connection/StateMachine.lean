import Mathlib.Data.List.Basic

/-!
# The connection state machine

`H2ConnectionStateMachine`: a table of the allowed `(state, input)` pairs and `process_input`.
The table's last key names the missing class `ConnectlionInputs`, so the class body raises
`NameError` (`transitions_table_raises_name_error`); the machine runs on `transitions`, the table
with that name read as `ConnectionInputs`, each step described once per state.
-/

namespace H2.Connection

/-- `ConnectionState`. -/
inductive ConnectionState
  | idle
  | clientOpen
  | serverOpen
  | closed
  deriving DecidableEq, Repr

/-- `ConnectionInputs`. -/
inductive ConnectionInputs
  | sendHeaders
  | sendPushPromise
  | sendData
  | sendGoaway
  | sendWindowUpdate
  | sendPing
  | recvHeaders
  | recvPushPromise
  | recvData
  | recvGoaway
  | recvWindowUpdate
  | recvPing
  deriving DecidableEq, Repr

open ConnectionState ConnectionInputs

/-! ### The transition table as written -/

/-- The `NameError` of a global name that is not defined. -/
structure NameError where
  name : String
  deriving DecidableEq, Repr

/-- A key's second half as written, `Class.MEMBER`: the class is looked up by name. -/
structure MemberRef where
  className : String
  member : ConnectionInputs
  deriving DecidableEq, Repr

/-- `ConnectionInputs.MEMBER` written with the class's own name. -/
def MemberRef.ofInput (member : ConnectionInputs) : MemberRef := ⟨"ConnectionInputs", member⟩

/-- Evaluating `Class.MEMBER` in the class body: only `ConnectionInputs` is defined. -/
def MemberRef.eval (ref : MemberRef) : Except NameError ConnectionInputs :=
  if ref.className = "ConnectionInputs" then .ok ref.member else .error ⟨ref.className⟩

/-- `_transitions` as written: `(state, input)` keys and target states; every side effect is
`None`. -/
def transitionsLiteral : List (ConnectionState × MemberRef × ConnectionState) :=
  [(idle, .ofInput sendHeaders, clientOpen),
   (idle, .ofInput recvHeaders, serverOpen),
   (clientOpen, .ofInput sendHeaders, clientOpen),
   (clientOpen, .ofInput sendData, clientOpen),
   (clientOpen, .ofInput sendGoaway, closed),
   (clientOpen, .ofInput sendWindowUpdate, clientOpen),
   (clientOpen, .ofInput sendPing, clientOpen),
   (clientOpen, .ofInput recvHeaders, clientOpen),
   (clientOpen, .ofInput recvPushPromise, clientOpen),
   (clientOpen, .ofInput recvData, clientOpen),
   (clientOpen, .ofInput recvGoaway, closed),
   (clientOpen, .ofInput recvWindowUpdate, clientOpen),
   (clientOpen, .ofInput recvPing, clientOpen),
   (serverOpen, .ofInput sendHeaders, serverOpen),
   (serverOpen, .ofInput sendPushPromise, serverOpen),
   (serverOpen, .ofInput sendData, serverOpen),
   (serverOpen, .ofInput sendGoaway, closed),
   (serverOpen, .ofInput sendWindowUpdate, serverOpen),
   (serverOpen, .ofInput sendPing, serverOpen),
   (serverOpen, .ofInput recvHeaders, serverOpen),
   (serverOpen, .ofInput recvData, serverOpen),
   (serverOpen, .ofInput recvGoaway, closed),
   (serverOpen, .ofInput recvWindowUpdate, serverOpen),
   (serverOpen, ⟨"ConnectlionInputs", recvPing⟩, serverOpen)]

/-- Evaluating the dict literal, key by key. -/
def evalTransitions : Except NameError (List (ConnectionState × ConnectionInputs × ConnectionState)) :=
  transitionsLiteral.mapM fun (state, ref, target) => ref.eval.map fun input => (state, input, target)

/-- The class body of `H2ConnectionStateMachine` cannot be evaluated: the key of its
`(SERVER_OPEN, RECV_PING)` entry names `ConnectlionInputs`, and importing `h2.connection`
raises `NameError`. -/
theorem transitions_table_raises_name_error : evalTransitions = .error ⟨"ConnectlionInputs"⟩ := rfl

/-- The misspelt key is the only one that does not name `ConnectionInputs`. -/
example :
    ∀ entry ∈ transitionsLiteral, entry.2.1.className = "ConnectionInputs" ∨
      entry = (serverOpen, ⟨"ConnectlionInputs", recvPing⟩, serverOpen) := by
  decide

/-- The table with the misspelt class read as `ConnectionInputs`. -/
def transitions : List (ConnectionState × ConnectionInputs × ConnectionState) :=
  transitionsLiteral.map fun (state, ref, target) => (state, ref.member, target)

/-- `self._transitions[(self.state, input_)]`: `none` is the `KeyError`. -/
def lookupTransition (state : ConnectionState) (input : ConnectionInputs) : Option ConnectionState :=
  (transitions.find? fun entry => entry.1 = state ∧ entry.2.1 = input).map (·.2.2)

/-! ### What the table allows, state by state -/

/-- The two `GOAWAY` inputs. -/
def isGoaway (input : ConnectionInputs) : Bool := input = sendGoaway || input = recvGoaway

theorem lookupTransition_idle (input : ConnectionInputs) :
    lookupTransition idle input =
      if input = sendHeaders then some clientOpen else if input = recvHeaders then some serverOpen else none := by
  cases input <;> rfl

theorem lookupTransition_clientOpen (input : ConnectionInputs) :
    lookupTransition clientOpen input =
      if isGoaway input then some closed else if input = sendPushPromise then none else some clientOpen := by
  cases input <;> rfl

theorem lookupTransition_serverOpen (input : ConnectionInputs) :
    lookupTransition serverOpen input =
      if isGoaway input then some closed else if input = recvPushPromise then none else some serverOpen := by
  cases input <;> rfl

theorem lookupTransition_closed (input : ConnectionInputs) : lookupTransition closed input = none := by
  cases input <;> rfl

/-! ### `process_input` -/

/-- `H2ConnectionStateMachine`: its one attribute. -/
structure H2ConnectionStateMachine where
  state : ConnectionState
  deriving DecidableEq, Repr

namespace H2ConnectionStateMachine

/-- `__init__`. -/
def init : H2ConnectionStateMachine := ⟨idle⟩

/-- `ProtocolError("Invalid input %s in state %s", input_, self.state)`, raised once
`self.state` is already `CLOSED`. -/
structure InvalidInput where
  input : ConnectionInputs
  state : ConnectionState
  deriving DecidableEq, Repr

/-- `process_input`: what the call returns or raises, and the machine after it. The
`ValueError` of an input outside `ConnectionInputs` cannot arise on a typed input. -/
def processInput (machine : H2ConnectionStateMachine) (input : ConnectionInputs) :
    Except InvalidInput Unit × H2ConnectionStateMachine :=
  match lookupTransition machine.state input with
  | none => (.error ⟨input, closed⟩, ⟨closed⟩)
  | some targetState => (.ok (), ⟨targetState⟩)

/-- Feeding `inputs` one call at a time, going on after errors. -/
def run (machine : H2ConnectionStateMachine) (inputs : List ConnectionInputs) : H2ConnectionStateMachine :=
  inputs.foldl (fun machine input => (machine.processInput input).2) machine

/-- What each call returns when `inputs` are fed one at a time, going on after errors. -/
def results : H2ConnectionStateMachine → List ConnectionInputs → List (Except InvalidInput Unit)
  | _, [] => []
  | machine, input :: inputs => (machine.processInput input).1 :: (machine.processInput input).2.results inputs

/-- The state after each call when `inputs` are fed one at a time, going on after errors. -/
def states : H2ConnectionStateMachine → List ConnectionInputs → List ConnectionState
  | _, [] => []
  | machine, input :: inputs => (machine.processInput input).2.state :: (machine.processInput input).2.states inputs

@[simp] theorem run_nil (machine : H2ConnectionStateMachine) : machine.run [] = machine := rfl

@[simp] theorem run_cons (machine : H2ConnectionStateMachine) (input : ConnectionInputs) (inputs : List ConnectionInputs) :
    machine.run (input :: inputs) = (machine.processInput input).2.run inputs := rfl

@[simp] theorem run_append (machine : H2ConnectionStateMachine) (xs ys : List ConnectionInputs) :
    machine.run (xs ++ ys) = (machine.run xs).run ys := List.foldl_append _ _ _ _

@[simp] theorem run_singleton (machine : H2ConnectionStateMachine) (input : ConnectionInputs) :
    machine.run [input] = (machine.processInput input).2 := rfl

variable {machine : H2ConnectionStateMachine} {input : ConnectionInputs}

theorem processInput_of_lookup_none (missing : lookupTransition machine.state input = none) :
    machine.processInput input = (.error ⟨input, closed⟩, ⟨closed⟩) := by
  simp [processInput, missing]

theorem processInput_of_lookup_some {target : ConnectionState}
    (found : lookupTransition machine.state input = some target) :
    machine.processInput input = (.ok (), ⟨target⟩) := by
  simp [processInput, found]

/-- A call that raises leaves the machine `CLOSED`. -/
theorem state_of_processInput_error {e : InvalidInput} (raised : (machine.processInput input).1 = .error e) :
    (machine.processInput input).2.state = closed := by
  cases found : lookupTransition machine.state input with
  | none => rw [processInput_of_lookup_none found]
  | some target => rw [processInput_of_lookup_some found] at raised; cases raised

/-- In `CLOSED` every call raises and the machine stays `CLOSED`. -/
theorem processInput_of_closed (closedNow : machine.state = closed) :
    machine.processInput input = (.error ⟨input, closed⟩, ⟨closed⟩) :=
  processInput_of_lookup_none (closedNow ▸ lookupTransition_closed input)

/-- `CLOSED` is never left. -/
theorem run_of_closed (closedNow : machine.state = closed) (inputs : List ConnectionInputs) :
    (machine.run inputs).state = closed := by
  induction inputs generalizing machine with
  | nil => exact closedNow
  | cons input inputs ih =>
    exact ih (show (machine.processInput input).2.state = closed by rw [processInput_of_closed closedNow])

end H2ConnectionStateMachine

end H2.Connection

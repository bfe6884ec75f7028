import H2Proofs.Connection.StateMachine

/-!
# The two endpoints of a connection

Reading every `SEND_x` as `RECV_x` and `CLIENT_OPEN` as `SERVER_OPEN`, and back, maps the
transition table onto itself (`lookupTransition_mirror`), so the peer's machine, fed the same
frames, accepts the same calls and ends in the mirror state (`peer_machine_mirrors_calls`).
-/

namespace H2.Connection

open ConnectionState ConnectionInputs

/-- The same frame seen by the other endpoint. -/
def ConnectionInputs.mirror : ConnectionInputs → ConnectionInputs
  | sendHeaders => recvHeaders
  | sendPushPromise => recvPushPromise
  | sendData => recvData
  | sendGoaway => recvGoaway
  | sendWindowUpdate => recvWindowUpdate
  | sendPing => recvPing
  | recvHeaders => sendHeaders
  | recvPushPromise => sendPushPromise
  | recvData => sendData
  | recvGoaway => sendGoaway
  | recvWindowUpdate => sendWindowUpdate
  | recvPing => sendPing

/-- The state the other endpoint is in: the client's open state is the server's. -/
def ConnectionState.mirror : ConnectionState → ConnectionState
  | idle => idle
  | clientOpen => serverOpen
  | serverOpen => clientOpen
  | closed => closed

namespace H2ConnectionStateMachine

/-- The peer's machine. -/
def mirror (machine : H2ConnectionStateMachine) : H2ConnectionStateMachine := ⟨machine.state.mirror⟩

/-- The peer's refusal of the same frame. -/
def InvalidInput.mirror (e : InvalidInput) : InvalidInput := ⟨e.input.mirror, e.state.mirror⟩

end H2ConnectionStateMachine

open H2ConnectionStateMachine

/-- Every entry of the table has its mirror entry, and no other entry is added. -/
theorem lookupTransition_mirror (state : ConnectionState) (input : ConnectionInputs) :
    lookupTransition state.mirror input.mirror = (lookupTransition state input).map ConnectionState.mirror := by
  cases state <;> cases input <;> rfl

theorem processInput_mirror (machine : H2ConnectionStateMachine) (input : ConnectionInputs) :
    machine.mirror.processInput input.mirror =
      ((machine.processInput input).1.mapError InvalidInput.mirror, (machine.processInput input).2.mirror) := by
  have step := lookupTransition_mirror machine.state input
  cases found : lookupTransition machine.state input with
  | none =>
    rw [found, Option.map_none'] at step
    rw [@processInput_of_lookup_none machine.mirror _ step, processInput_of_lookup_none found]
    rfl
  | some target =>
    rw [found, Option.map_some'] at step
    rw [@processInput_of_lookup_some machine.mirror _ _ step, processInput_of_lookup_some found]
    rfl

/-- Two endpoints that see the frames of a run in the same order, what one sends being what the
other receives, agree call by call: from mirror states, the peer accepts exactly the calls this
machine accepts, refuses the others with the mirrored input, and ends in the mirror state. -/
theorem peer_machine_mirrors_calls (machine : H2ConnectionStateMachine) (inputs : List ConnectionInputs) :
    machine.mirror.results (inputs.map ConnectionInputs.mirror) =
        (machine.results inputs).map (Except.mapError InvalidInput.mirror) ∧
      machine.mirror.run (inputs.map ConnectionInputs.mirror) = (machine.run inputs).mirror := by
  induction inputs generalizing machine with
  | nil => exact ⟨rfl, rfl⟩
  | cons input inputs ih =>
    obtain ⟨sameResults, sameRun⟩ := ih (machine.processInput input).2
    simp only [List.map_cons, results, run_cons, processInput_mirror, sameResults, sameRun, and_self]

end H2.Connection

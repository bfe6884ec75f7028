import H2Proofs.Connection.StateMachine

/-!
# Runs of the connection state machine

A fresh machine accepts exactly the words of `Legal`, `{ε} ∪ SEND_HEADERS·C*·(G|ε) ∪
RECV_HEADERS·S*·(G|ε)`: one step keeps `Reflects`, so every run does, which gives soundness
(`state_machine_sound`) and completeness (`legal_runs_accepted`); `states_open_then_closed`
traces the states a run passes through.
-/

namespace H2.Connection

open ConnectionState ConnectionInputs H2ConnectionStateMachine

/-! ### The language -/

/-- `C`: an input a client-opened connection goes on with. -/
def ClientContinues (input : ConnectionInputs) : Prop := isGoaway input = false ∧ input ≠ sendPushPromise

/-- `S`: an input a server-opened connection goes on with. -/
def ServerContinues (input : ConnectionInputs) : Prop := isGoaway input = false ∧ input ≠ recvPushPromise

instance : DecidablePred ClientContinues := fun _ => inferInstanceAs (Decidable (_ ∧ _))

instance : DecidablePred ServerContinues := fun _ => inferInstanceAs (Decidable (_ ∧ _))

/-- `SEND_HEADERS · C*`. -/
def ClientRun (inputs : List ConnectionInputs) : Prop :=
  ∃ body, inputs = sendHeaders :: body ∧ ∀ x ∈ body, ClientContinues x

/-- `RECV_HEADERS · S*`. -/
def ServerRun (inputs : List ConnectionInputs) : Prop :=
  ∃ body, inputs = recvHeaders :: body ∧ ∀ x ∈ body, ServerContinues x

/-- `L`: empty, an opened run, or an opened run closed by one `GOAWAY`. -/
def Legal (inputs : List ConnectionInputs) : Prop :=
  inputs = [] ∨ ClientRun inputs ∨ ServerRun inputs ∨
    ∃ opened goaway, (ClientRun opened ∨ ServerRun opened) ∧ isGoaway goaway ∧ inputs = opened ++ [goaway]

theorem clientRun_append {inputs : List ConnectionInputs} {input : ConnectionInputs}
    (opened : ClientRun inputs) (continues : ClientContinues input) : ClientRun (inputs ++ [input]) := by
  obtain ⟨body, rfl, body_continues⟩ := opened
  exact ⟨body ++ [input], rfl, by simpa [or_imp, forall_and, continues] using body_continues⟩

theorem serverRun_append {inputs : List ConnectionInputs} {input : ConnectionInputs}
    (opened : ServerRun inputs) (continues : ServerContinues input) : ServerRun (inputs ++ [input]) := by
  obtain ⟨body, rfl, body_continues⟩ := opened
  exact ⟨body ++ [input], rfl, by simpa [or_imp, forall_and, continues] using body_continues⟩

/-! ### What the state says about the run -/

/-- The state after `inputs` places them in `L`: `IDLE` after nothing, `CLIENT_OPEN` after
`SEND_HEADERS · C*`, `SERVER_OPEN` after `RECV_HEADERS · S*`. -/
def Reflects (inputs : List ConnectionInputs) : ConnectionState → Prop
  | idle => inputs = []
  | clientOpen => ClientRun inputs
  | serverOpen => ServerRun inputs
  | closed => True

theorem reflects_processInput {inputs : List ConnectionInputs} {machine : H2ConnectionStateMachine}
    (reflects : Reflects inputs machine.state) (input : ConnectionInputs) :
    Reflects (inputs ++ [input]) (machine.processInput input).2.state := by
  rcases machine with ⟨_ | _ | _ | _⟩
  · have empty : inputs = [] := reflects
    subst empty
    simp only [processInput, lookupTransition_idle]
    split_ifs with headers received
    · exact ⟨[], by rw [headers]; rfl, nofun⟩
    · exact ⟨[], by rw [received]; rfl, nofun⟩
    · trivial
  · simp only [processInput, lookupTransition_clientOpen]
    split_ifs with goaway pushed
    · trivial
    · trivial
    · exact clientRun_append reflects ⟨by simpa using goaway, pushed⟩
  · simp only [processInput, lookupTransition_serverOpen]
    split_ifs with goaway pushed
    · trivial
    · trivial
    · exact serverRun_append reflects ⟨by simpa using goaway, pushed⟩
  · simp only [processInput, lookupTransition_closed]
    trivial

theorem reflects_run (inputs : List ConnectionInputs) : Reflects inputs (init.run inputs).state := by
  induction inputs using List.reverseRecOn with
  | nil => rfl
  | append_singleton inputs input ih =>
    rw [run_append, run_singleton]
    exact reflects_processInput ih input

/-- A call that returns extends a word of `L`. -/
theorem legal_of_processInput_ok {inputs : List ConnectionInputs} {machine : H2ConnectionStateMachine}
    {input : ConnectionInputs} (reflects : Reflects inputs machine.state)
    (returned : (machine.processInput input).1 = .ok ()) : Legal (inputs ++ [input]) := by
  rcases machine with ⟨_ | _ | _ | _⟩
  · have empty : inputs = [] := reflects
    subst empty
    simp only [processInput, lookupTransition_idle] at returned
    split_ifs at returned with headers received
    · exact .inr (.inl ⟨[], by rw [headers]; rfl, nofun⟩)
    · exact .inr (.inr (.inl ⟨[], by rw [received]; rfl, nofun⟩))
  · simp only [processInput, lookupTransition_clientOpen] at returned
    split_ifs at returned with goaway pushed
    · exact .inr (.inr (.inr ⟨inputs, input, .inl reflects, goaway, rfl⟩))
    · exact .inr (.inl (clientRun_append reflects ⟨by simpa using goaway, pushed⟩))
  · simp only [processInput, lookupTransition_serverOpen] at returned
    split_ifs at returned with goaway pushed
    · exact .inr (.inr (.inr ⟨inputs, input, .inr reflects, goaway, rfl⟩))
    · exact .inr (.inr (.inl (serverRun_append reflects ⟨by simpa using goaway, pushed⟩)))
  · simp only [processInput, lookupTransition_closed] at returned
    cases returned

/-! ### Soundness -/

/-- Feeding any inputs to a fresh machine, going on after errors: a call that raises leaves the
machine `CLOSED`; once `CLOSED`, every later call raises and the machine stays `CLOSED`; and a
call that returns extends a word of `L`. -/
theorem state_machine_sound (inputs : List ConnectionInputs) (input : ConnectionInputs) :
    (∀ e, ((init.run inputs).processInput input).1 = .error e →
      ((init.run inputs).processInput input).2.state = closed) ∧
    ((init.run inputs).state = closed → ∀ later next, ∃ e,
      ((init.run (inputs ++ later)).processInput next).1 = .error e ∧
        ((init.run (inputs ++ later)).processInput next).2.state = closed) ∧
    (((init.run inputs).processInput input).1 = .ok () → Legal (inputs ++ [input])) := by
  refine ⟨fun _ raised => state_of_processInput_error raised, fun closedNow later next => ?_,
    legal_of_processInput_ok (reflects_run inputs)⟩
  have stillClosed : (init.run (inputs ++ later)).state = closed := by
    rw [run_append]
    exact run_of_closed closedNow later
  rw [processInput_of_closed stillClosed]
  exact ⟨_, rfl, rfl⟩

/-! ### Completeness -/

/-- While the machine is in `st`, inputs that the table maps from `st` to `st` are accepted
and keep it there. -/
theorem run_of_open {st : ConnectionState} {stays : ConnectionInputs → Prop}
    (keeps : ∀ x, stays x → lookupTransition st x = some st) {machine : H2ConnectionStateMachine}
    (openNow : machine.state = st) {body : List ConnectionInputs} (allStay : ∀ x ∈ body, stays x) :
    (machine.run body).state = st ∧ ∀ r ∈ machine.results body, r = .ok () := by
  induction body generalizing machine with
  | nil => exact ⟨openNow, nofun⟩
  | cons x xs ih =>
    have found : lookupTransition machine.state x = some st := by
      rw [openNow]; exact keeps x (allStay x (List.mem_cons_self x xs))
    have step := processInput_of_lookup_some found
    obtain ⟨state, returned⟩ := ih (rfl : (⟨st⟩ : H2ConnectionStateMachine).state = st)
      fun y mem => allStay y (List.mem_cons_of_mem x mem)
    simp only [run_cons, results, step, List.mem_cons, forall_eq_or_imp, true_and]
    exact ⟨state, returned⟩

theorem clientRun_accepted {inputs : List ConnectionInputs} (opened : ClientRun inputs) :
    (init.run inputs).state = clientOpen ∧ ∀ r ∈ init.results inputs, r = .ok () := by
  obtain ⟨body, rfl, continues⟩ := opened
  have keeps : ∀ x, ClientContinues x → lookupTransition clientOpen x = some clientOpen := fun x ⟨open_, pushed⟩ => by
    simp [lookupTransition_clientOpen, open_, pushed]
  have first : init.processInput sendHeaders = (.ok (), ⟨clientOpen⟩) := rfl
  obtain ⟨state, returned⟩ := run_of_open keeps (rfl : (⟨clientOpen⟩ : H2ConnectionStateMachine).state = _) continues
  exact ⟨state, by simpa [results, first] using returned⟩

theorem serverRun_accepted {inputs : List ConnectionInputs} (opened : ServerRun inputs) :
    (init.run inputs).state = serverOpen ∧ ∀ r ∈ init.results inputs, r = .ok () := by
  obtain ⟨body, rfl, continues⟩ := opened
  have keeps : ∀ x, ServerContinues x → lookupTransition serverOpen x = some serverOpen := fun x ⟨open_, pushed⟩ => by
    simp [lookupTransition_serverOpen, open_, pushed]
  have first : init.processInput recvHeaders = (.ok (), ⟨serverOpen⟩) := rfl
  obtain ⟨state, returned⟩ := run_of_open keeps (rfl : (⟨serverOpen⟩ : H2ConnectionStateMachine).state = _) continues
  exact ⟨state, by simpa [results, first] using returned⟩

theorem results_append (machine : H2ConnectionStateMachine) (xs ys : List ConnectionInputs) :
    machine.results (xs ++ ys) = machine.results xs ++ (machine.run xs).results ys := by
  induction xs generalizing machine with
  | nil => rfl
  | cons x xs ih => simp [results, ih]

/-- A `GOAWAY` leaves every machine `CLOSED`, and is accepted by an open one. -/
theorem processInput_goaway (machine : H2ConnectionStateMachine) {goaway : ConnectionInputs}
    (isGoaway_ : isGoaway goaway) :
    (machine.processInput goaway).2.state = closed ∧
      (machine.state = clientOpen ∨ machine.state = serverOpen → (machine.processInput goaway).1 = .ok ()) := by
  cases goaway <;> simp [isGoaway] at isGoaway_ <;> rcases machine with ⟨_ | _ | _ | _⟩ <;>
    exact ⟨rfl, fun opened => by first | rfl | simp at opened⟩

/-- Every word of `L` is accepted at every call, and ends in `IDLE` when empty, `CLIENT_OPEN`
after `SEND_HEADERS · C*`, `SERVER_OPEN` after `RECV_HEADERS · S*`, and `CLOSED` after a
`GOAWAY`. -/
theorem legal_runs_accepted (inputs : List ConnectionInputs) (legal : Legal inputs) :
    (∀ r ∈ init.results inputs, r = .ok ()) ∧
    (inputs = [] → (init.run inputs).state = idle) ∧
    (ClientRun inputs → (init.run inputs).state = clientOpen) ∧
    (ServerRun inputs → (init.run inputs).state = serverOpen) ∧
    (∀ opened goaway, isGoaway goaway → inputs = opened ++ [goaway] → (init.run inputs).state = closed) := by
  refine ⟨?_, fun empty => by rw [empty]; rfl, fun opened => (clientRun_accepted opened).1,
    fun opened => (serverRun_accepted opened).1, fun opened goaway closing split => ?_⟩
  · rcases legal with rfl | opened | opened | ⟨opened, goaway, started, closing, rfl⟩
    · exact nofun
    · exact (clientRun_accepted opened).2
    · exact (serverRun_accepted opened).2
    · obtain ⟨state, returned⟩ : ((init.run opened).state = clientOpen ∨ (init.run opened).state = serverOpen) ∧
          ∀ r ∈ init.results opened, r = .ok () := by
        rcases started with client | server
        · exact ⟨.inl (clientRun_accepted client).1, (clientRun_accepted client).2⟩
        · exact ⟨.inr (serverRun_accepted server).1, (serverRun_accepted server).2⟩
      intro r mem
      rcases List.mem_append.mp (results_append init opened [goaway] ▸ mem) with early | last
      · exact returned r early
      · simp only [results, List.mem_singleton] at last
        rw [last]
        exact (processInput_goaway _ closing).2 state
  · rw [split, run_append, run_singleton]
    exact (processInput_goaway _ closing).1

theorem legal_runs_accepted_server_ping :
    Legal [recvHeaders, recvPing, sendPushPromise, recvGoaway] ∧
    (∀ r ∈ init.results [recvHeaders, recvPing, sendPushPromise, recvGoaway], r = .ok ()) ∧
    ([recvHeaders, recvPing, sendPushPromise, recvGoaway] = [] →
      (init.run [recvHeaders, recvPing, sendPushPromise, recvGoaway]).state = idle) ∧
    (ClientRun [recvHeaders, recvPing, sendPushPromise, recvGoaway] →
      (init.run [recvHeaders, recvPing, sendPushPromise, recvGoaway]).state = clientOpen) ∧
    (ServerRun [recvHeaders, recvPing, sendPushPromise, recvGoaway] →
      (init.run [recvHeaders, recvPing, sendPushPromise, recvGoaway]).state = serverOpen) ∧
    (∀ opened goaway, isGoaway goaway → [recvHeaders, recvPing, sendPushPromise, recvGoaway] = opened ++ [goaway] →
      (init.run [recvHeaders, recvPing, sendPushPromise, recvGoaway]).state = closed) :=
  have legal : Legal [recvHeaders, recvPing, sendPushPromise, recvGoaway] :=
    .inr (.inr (.inr ⟨[recvHeaders, recvPing, sendPushPromise], recvGoaway,
      .inr ⟨[recvPing, sendPushPromise], rfl, by decide⟩, rfl, rfl⟩))
  ⟨legal, legal_runs_accepted _ legal⟩

/-! ### The states a run passes through -/

/-- One call from an open state keeps the machine in it or closes it. -/
theorem processInput_state_of_open {opened : ConnectionState} (isOpen : opened = clientOpen ∨ opened = serverOpen)
    {machine : H2ConnectionStateMachine} (openNow : machine.state = opened) (input : ConnectionInputs) :
    (machine.processInput input).2.state = opened ∨ (machine.processInput input).2.state = closed := by
  cases found : lookupTransition machine.state input with
  | none => exact .inr (by rw [processInput_of_lookup_none found])
  | some target =>
    rw [processInput_of_lookup_some found]
    rw [openNow] at found
    rcases isOpen with rfl | rfl <;> simp only [lookupTransition_clientOpen, lookupTransition_serverOpen] at found <;>
      split_ifs at found <;> cases found <;> simp

theorem states_of_closed {machine : H2ConnectionStateMachine} (closedNow : machine.state = closed)
    (inputs : List ConnectionInputs) : machine.states inputs = List.replicate inputs.length closed := by
  induction inputs generalizing machine with
  | nil => rfl
  | cons input inputs ih =>
    rw [states, processInput_of_closed closedNow, ih rfl]
    rfl

/-- A call that enters `opened`, before a run that keeps it for `k` calls and then closes. -/
theorem states_cons_of_entered {opened : ConnectionState} {machine : H2ConnectionStateMachine}
    {input : ConnectionInputs} {inputs : List ConnectionInputs} (entered : (machine.processInput input).2.state = opened)
    (rest : ∃ k, (machine.processInput input).2.states inputs =
      List.replicate k opened ++ List.replicate (inputs.length - k) closed) :
    ∃ k, machine.states (input :: inputs) =
      List.replicate k opened ++ List.replicate ((input :: inputs).length - k) closed := by
  obtain ⟨k, rest⟩ := rest
  refine ⟨k + 1, ?_⟩
  rw [states, rest, entered, List.length_cons, Nat.add_sub_add_right]
  rfl

/-- From an open state, a run keeps it for some calls, then is `CLOSED` for the rest. -/
theorem states_of_open {opened : ConnectionState} (isOpen : opened = clientOpen ∨ opened = serverOpen)
    {machine : H2ConnectionStateMachine} (openNow : machine.state = opened) (inputs : List ConnectionInputs) :
    ∃ k, machine.states inputs = List.replicate k opened ++ List.replicate (inputs.length - k) closed := by
  induction inputs generalizing machine with
  | nil => exact ⟨0, rfl⟩
  | cons input inputs ih =>
    rcases processInput_state_of_open isOpen openNow input with stays | closes
    · exact states_cons_of_entered stays (ih stays)
    · refine ⟨0, ?_⟩
      rw [states, states_of_closed closes, closes]
      rfl

/-- Whatever a fresh machine is fed, going on after errors: it leaves `IDLE` at the first call
and never comes back, is then in one open state, `CLIENT_OPEN` or `SERVER_OPEN` and never the
other, and once `CLOSED` stays so to the end. -/
theorem states_open_then_closed (inputs : List ConnectionInputs) :
    ∃ opened, (opened = clientOpen ∨ opened = serverOpen) ∧
      ∃ k, init.states inputs = List.replicate k opened ++ List.replicate (inputs.length - k) closed := by
  cases inputs with
  | nil => exact ⟨clientOpen, .inl rfl, 0, rfl⟩
  | cons input inputs =>
    by_cases headers : input = sendHeaders
    · have entered : (init.processInput input).2.state = clientOpen := by rw [headers]; rfl
      exact ⟨clientOpen, .inl rfl, states_cons_of_entered entered (states_of_open (.inl rfl) entered inputs)⟩
    by_cases received : input = recvHeaders
    · have entered : (init.processInput input).2.state = serverOpen := by rw [received]; rfl
      exact ⟨serverOpen, .inr rfl, states_cons_of_entered entered (states_of_open (.inr rfl) entered inputs)⟩
    have closes : (init.processInput input).2.state = closed := by
      simp [processInput, lookupTransition_idle, headers, received, init]
    exact ⟨clientOpen, .inl rfl, 0, by rw [states, states_of_closed closes, closes]; rfl⟩

end H2.Connection

import RnsProxy.Client

/-!
# The dispatch task of the client

The dispatch task owns the life of the link: it feeds the packets to the multiplexer, resets the
multiplexer when the link is lost, and establishes another link. This file lists its turns, and
reads off a run which link it has established last and which packets it has received.
-/

namespace RnsProxy

/-- The steps of the accept loops, and a link going down. -/
def ClientAct.ofLoop : ClientAct → Bool
  | .accept _ => true
  | .isConnected _ => true
  | .nextSessionId _ => true
  | .registerSession _ => true
  | .linkDown _ => true
  | _ => false

/-- What the accept loops do to the multiplexer. -/
def EndpointAct.OfLoop : EndpointAct → Prop
  | .spawn _ _ => True
  | .nextSessionId => True
  | _ => False

namespace Endpoint

/-- What the other tasks leave as it is, and `dispatch` too. -/
structure Leaves (ep next : Endpoint) : Prop where
  /-- No other task sets the link. -/
  linkId : ∀ link, next.mux.linkId = some link → ep.mux.linkId = some link
  /-- A session is registered with a new channel. -/
  sessions : ∀ sid chan, next.mux.sessions sid = some chan →
    ep.mux.sessions sid = some chan ∨ chan = ep.mux.nextChan
  /-- No other task touches the reassembly buffer. -/
  recvBuf : next.mux.recvBuf = ep.mux.recvBuf
  /-- The history of the send queue grows. -/
  log : ∀ out ∈ ep.mux.log, out ∈ next.mux.log

/-- The actions of the tasks other than the dispatch task, and `dispatch`. -/
def Elsewhere : EndpointAct → Prop
  | .session _ _ _ => True
  | .spawn _ _ => True
  | .nextSessionId => True
  | .dispatch _ => True
  | .sender _ => True
  | _ => False

theorem Step.leaves {linkMdu : ℕ+} {socks : FastSocks5} {ep next : Endpoint} {act : EndpointAct}
    (taken : Step linkMdu socks ep act next) (elsewhere : Elsewhere act) : Leaves ep next := by
  cases taken with
  | session found taken performs =>
      refine ⟨fun link same => ?_, fun sid chan found => .inl (performs.sessions_of_some found), ?_,
        fun out member => ?_⟩
      · cases performs <;> exact same
      · cases performs <;> rfl
      · rw [performs.log_eq]
        exact List.mem_append_left _ member
  | @spawn start sid =>
      refine ⟨fun link same => same, fun other chan found => ?_, rfl, fun out member => member⟩
      rcases update_some_cases found with ⟨_, same⟩ | ⟨_, found⟩
      · exact .inr same.symm
      · exact .inl found
  | nextSessionId =>
      exact ⟨fun link same => same, fun sid chan found => .inl found, rfl, fun out member => member⟩
  | @dispatch frame =>
      obtain ⟨channels, same⟩ := ep.mux.dispatch_frame frame
      rw [same]
      exact ⟨fun link same => same, fun sid chan found => .inl found, rfl, fun out member => member⟩
  | sender taken =>
      refine ⟨fun link same => ?_, fun sid chan found => .inl ?_, ?_, fun out member => ?_⟩
      · cases taken with
        | clearLink => cases same
        | _ => exact same
      · obtain ⟨linkId, dataSenderBuf, sender, wire, handed, rfl⟩ := taken.frame
        exact found
      · obtain ⟨linkId, dataSenderBuf, sender, wire, handed, rfl⟩ := taken.frame
        rfl
      · obtain ⟨linkId, dataSenderBuf, sender, wire, handed, rfl⟩ := taken.frame
        exact member
  | _ => exact elsewhere.elim

theorem Leaves.refl (ep : Endpoint) : Leaves ep ep :=
  ⟨fun _ same => same, fun _ _ found => .inl found, rfl, fun _ member => member⟩

theorem leaves_of_attempt {linkMdu : ℕ+} {socks : FastSocks5} {ep next : Endpoint}
    {choice : Option EndpointAct}
    (taken : Execution.attempt (Endpoint.step linkMdu socks) ep choice = some next)
    (elsewhere : ∀ act, choice = some act → Elsewhere act) : Leaves ep next :=
  Execution.attempt_invariant (Leaves ep) (.refl ep)
    (fun act chosen stepped => (step_cases stepped).leaves (elsewhere act chosen)) taken

end Endpoint

namespace Client

/-- The steps of the client by what becomes of its dispatch task and what happens to the
multiplexer. -/
inductive Turn (client : Client) : ClientAct → Dispatcher → Option EndpointAct → Prop
  | session {chan act} :
      Turn client (.session chan act) client.dispatcher (some (.session true chan act))
  | sender {act} : Turn client (.sender act) client.dispatcher (some (.sender act))
  | loop {act endpointAct} (ofLoop : act.ofLoop)
      (does : ∀ made, endpointAct = some made → made.OfLoop) :
      Turn client act client.dispatcher endpointAct
  | data {link data} (receiving : client.dispatcher = .receiving) :
      Turn client (.event (some (.linkData link data)))
        (.dispatching (client.endpoint.mux.receiveData data).1) (some (.receive data))
  | lost {link} (receiving : client.dispatcher = .receiving) :
      Turn client (.event (some (.linkClosed link))) .resettingLinkId none
  | ignored {event} (receiving : client.dispatcher = .receiving)
      (no_data : ∀ link data, event ≠ .linkData link data)
      (not_closed : ∀ link, event ≠ .linkClosed link) :
      Turn client (.event (some event)) .receiving none
  | shutDown (receiving : client.dispatcher = .receiving) :
      Turn client (.event none) .stopped none
  | dispatch {frame frames} (dispatching : client.dispatcher = .dispatching (frame :: frames)) :
      Turn client .dispatch (.dispatching frames) (some (.dispatch frame))
  | dispatched (dispatching : client.dispatcher = .dispatching []) :
      Turn client .dispatch .receiving none
  | resetLinkId (resetting : client.dispatcher = .resettingLinkId) :
      Turn client .reset .resettingSessions (some .resetLinkId)
  | resetSessions (resetting : client.dispatcher = .resettingSessions) :
      Turn client .reset .resettingRecvBuf (some .resetSessions)
  | resetRecvBuf (resetting : client.dispatcher = .resettingRecvBuf) :
      Turn client .reset (.reconnecting 0) (some .resetRecvBuf)
  | retry {delay later outcome} (reconnecting : client.dispatcher = .reconnecting delay)
      (failed : ∀ link, outcome ≠ .created link) :
      Turn client (.attempt outcome) (.reconnecting later) none
  | created {delay link} (reconnecting : client.dispatcher = .reconnecting delay) :
      Turn client (.attempt (.created link)) (.establishing link delay) none
  | established {link delay} (establishing : client.dispatcher = .establishing link delay) :
      Turn client (.event (some (.linkEstablished link true))) (.connecting link) none
  | refused {link delay later} (establishing : client.dispatcher = .establishing link delay) :
      Turn client (.event (some (.linkClosed link))) (.reconnecting later) none
  | passedOver {link delay event} (establishing : client.dispatcher = .establishing link delay)
      (not_closed : event ≠ .linkClosed link) :
      Turn client (.event (some event)) (.establishing link delay) none
  | cutOff {link delay later} (establishing : client.dispatcher = .establishing link delay) :
      Turn client (.event none) (.reconnecting later) none
  | setLinkId {link} (connecting : client.dispatcher = .connecting link) :
      Turn client .setLinkId .receiving (some (.setLinkId link))

theorem turn_of_onEvent {client : Client} {event : Option ProxyEvent} {dispatcher : Dispatcher}
    {endpointAct : Option EndpointAct}
    (reacted : client.onEvent event = some (dispatcher, endpointAct)) :
    Turn client (.event event) dispatcher endpointAct := by
  simp only [onEvent] at reacted
  split at reacted
  · cases reacted
    exact .data ‹_›
  · cases reacted
    exact .lost ‹_›
  · rename_i event no_data not_closed receiving
    cases reacted
    exact .ignored receiving (fun link data same => no_data link data same)
      (fun link same => not_closed link same)
  · cases reacted
    exact .shutDown ‹_›
  · split_ifs at reacted with up
    · obtain ⟨rfl, rfl⟩ := up
      cases reacted
      exact .established ‹_›
    · cases reacted
      exact .passedOver ‹_› (by simp)
  · split_ifs at reacted with same
    · subst same
      cases reacted
      exact .refused ‹_›
    · cases reacted
      exact .passedOver ‹_› (by simpa using same)
  · rename_i not_closed _
    cases reacted
    exact .passedOver ‹_› (fun same => not_closed _ same)
  · cases reacted
    exact .cutOff ‹_›
  · cases reacted

theorem turn_of_control {client next : Client} {act : ClientAct} {endpointAct : Option EndpointAct}
    (controlled : client.control act = some (next, endpointAct)) :
    Turn client act next.dispatcher endpointAct := by
  cases act with
  | session chan act =>
      cases controlled
      exact .session
  | sender act =>
      cases controlled
      exact .sender
  | accept loop =>
      simp only [control] at controlled
      split at controlled <;> cases controlled
      exact .loop rfl (by simp)
  | isConnected loop =>
      simp only [control] at controlled
      split at controlled <;> cases controlled
      exact .loop rfl (by simp)
  | nextSessionId loop =>
      simp only [control] at controlled
      split at controlled <;> cases controlled
      exact .loop rfl (by simp [EndpointAct.OfLoop])
  | registerSession loop =>
      simp only [control] at controlled
      split at controlled <;> cases controlled
      exact .loop rfl (by simp [EndpointAct.OfLoop])
  | event event =>
      simp only [control, Option.ite_none_right_eq_some, Option.map_eq_some_iff] at controlled
      obtain ⟨_, ⟨dispatcher, endpointAct⟩, reacted, same⟩ := controlled
      cases same
      exact turn_of_onEvent reacted
  | dispatch =>
      simp only [control] at controlled
      split at controlled <;> cases controlled
      · exact .dispatch ‹_›
      · exact .dispatched ‹_›
  | reset =>
      simp only [control] at controlled
      split at controlled <;> cases controlled
      · exact .resetLinkId ‹_›
      · exact .resetSessions ‹_›
      · exact .resetRecvBuf ‹_›
  | attempt outcome =>
      simp only [control] at controlled
      split at controlled <;> cases controlled
      cases outcome with
      | created link => exact .created ‹_›
      | _ => exact .retry ‹_› (by simp)
  | setLinkId =>
      simp only [control] at controlled
      split at controlled <;> cases controlled
      exact .setLinkId ‹_›
  | linkDown link =>
      cases controlled
      exact .loop rfl (by simp)

theorem turn_of_step {linkMdu : ℕ+} {socks : FastSocks5} {client next : Client} {act : ClientAct}
    (taken : client.step linkMdu socks act = some next) :
    ∃ endpointAct, Turn client act next.dispatcher endpointAct ∧
      Execution.attempt (Endpoint.step linkMdu socks) client.endpoint endpointAct =
        some next.endpoint := by
  cases step_cases taken with
  | control controlled =>
      exact ⟨none, turn_of_control controlled,
        congrArg some (control_cases controlled).endpoint.symm⟩
  | endpoint controlled stepped =>
      have turn := turn_of_control controlled
      exact ⟨_, turn, stepped⟩

/-! ## What a run says about the link -/

/-- The link that the dispatch task makes the active one in a step. -/
def connects : Client × ClientAct → Option LinkId
  | (client, .setLinkId) =>
      match client.dispatcher with
      | .connecting link => some link
      | _ => none
  | _ => none

/-- The link the dispatch task has established last. -/
def current (first : LinkId) (past : List (Client × ClientAct)) : LinkId :=
  (past.filterMap connects).getLastD first

/-- The packet that the dispatch task feeds to the multiplexer in a step. -/
def receives : Client × ClientAct → Option (LinkId × Bytes)
  | (client, .event (some (.linkData link data))) =>
      if client.dispatcher = .receiving then some (link, data) else none
  | _ => none

/-- The link whose loss the dispatch task acts on in a step. -/
def loses : Client × ClientAct → Option LinkId
  | (client, .event (some (.linkClosed link))) =>
      if client.dispatcher = .receiving then some link else none
  | _ => none

theorem current_concat (first : LinkId) (past : List (Client × ClientAct))
    (taken : Client × ClientAct) :
    current first (past ++ [taken]) = (connects taken).getD (current first past) := by
  rw [current, Execution.filterMap_concat]
  cases connects taken with
  | none => simp [current]
  | some link => simp [current]

end Client

end RnsProxy

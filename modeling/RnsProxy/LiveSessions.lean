import RnsProxy.Client
import RnsProxy.SessionTable

/-!
# The client's session table

The client registers a session before it knows whether the connection asks for one. This file
determines the runs in which its session table holds only live sessions.
-/

namespace RnsProxy

namespace Client

/-- The session table holds only live sessions; in particular an id whose task has ended is no
longer registered, unless it has been given to another session. -/
def TableLive (client : Client) : Prop :=
  client.endpoint.HoldsOnlyLive ∧
    ∀ chan task, client.endpoint.tasks chan = some task → task.hasEnded = true →
      (∀ other task', client.endpoint.tasks other = some task' → task'.sid = task.sid →
        other = chan) →
      client.endpoint.mux.sessions task.sid = none

/-- No session task ends without `drop_session` while it is still registered. -/
def DropsSession (client : Client) (act : ClientAct) : Prop :=
  ∀ chan taskAct task, act = .session chan taskAct → client.endpoint.tasks chan = some task →
    task.Abandons taskAct → client.endpoint.mux.sessions task.sid ≠ some chan

theorem tableLive_iff {client : Client} : client.TableLive ↔ client.endpoint.HoldsOnlyLive := by
  refine and_iff_left_of_imp fun live chan task found ended unique => ?_
  by_contra registered
  obtain ⟨other, registered⟩ := Option.ne_none_iff_exists'.mp registered
  obtain ⟨task', owns, same_sid, running⟩ := live task.sid other registered
  obtain rfl := unique other task' owns same_sid
  obtain rfl := Option.some.inj (found.symm.trans owns)
  simp [ended] at running

/-- The table of a client whose tables agree holds only live sessions. -/
structure Live (client : Client) : Prop where
  /-- The tables agree. -/
  well : client.endpoint.WellFormed
  /-- The table holds only live sessions. -/
  live : client.endpoint.HoldsOnlyLive

section Steps

variable {linkMdu : ℕ+} {socks : FastSocks5} {client next : Client} {act : ClientAct}

theorem live_new (link : LinkId) (listeners : List Listener) : Live (new link listeners) :=
  ⟨wellFormed_new link listeners, Endpoint.holdsOnlyLive_new⟩

theorem Live.step (live : Live client) (drops : DropsSession client act)
    (taken : Step linkMdu socks client act next) : Live next := by
  cases taken with
  | control controlled =>
      have same := (control_cases controlled).endpoint
      exact ⟨same ▸ live.well, same ▸ live.live⟩
  | @endpoint _ endpointAct endpoint controlled stepped =>
      have stepped := Endpoint.step_cases stepped
      refine ⟨live.well.step stepped, live.live.step live.well stepped ?_⟩
      rintro held chan taskAct task rfl found
      obtain ⟨acts, _⟩ := ((control_cases controlled).session held chan taskAct).mp rfl
      exact drops chan taskAct task acts found

/-- A session abandoned while it is registered stays in the table. -/
theorem Live.dropsSession (live : Live client) (taken : Step linkMdu socks client act next)
    (live_after : next.TableLive) : DropsSession client act := by
  rintro chan taskAct task rfl found
  cases taken with
  | control controlled => cases controlled
  | endpoint controlled stepped =>
      cases controlled
      exact live.live.dropsSession (Endpoint.step_cases stepped) (tableLive_iff.mp live_after)
        true chan taskAct task rfl found

end Steps

/-- The session table holds only live sessions throughout a run exactly if no session task ends
without `drop_session` while it is still registered. -/
theorem tableLive_always_iff {linkMdu : ℕ+} {socks : FastSocks5} {link : LinkId}
    {listeners : List Listener} {actions : List ClientAct} {final : Client}
    (execution : Execution.run (step linkMdu socks) (new link listeners) actions = some final) :
    Execution.Always (step linkMdu socks) TableLive (new link listeners) actions ↔
      Execution.Along (step linkMdu socks) DropsSession (new link listeners) actions := by
  refine Execution.always_iff_along (fun client live => tableLive_iff.mpr live.live) ?_ ?_
    (live_new link listeners) execution
  · exact fun before act after live drops taken => live.step drops (step_cases taken)
  · exact fun before act after live taken live_after =>
      live.dropsSession (step_cases taken) live_after

/-- A connection to the SOCKS5 listener whose handshake fails. -/
def portScan : List ClientAct :=
  [.accept 0, .isConnected 0, .nextSessionId 0, .registerSession 0, .session 0 (.handshake false)]

/-- The session of the connection stays in the table. -/
theorem not_tableLive_portScan :
    ∃ final, Execution.run (step 431 .rfc1928) (new 1 [.socks]) portScan = some final ∧
      ¬ Execution.Always (step 431 .rfc1928) TableLive (new 1 [.socks]) portScan := by
  have ends : ∃ final task,
      Execution.run (step 431 .rfc1928) (new 1 [.socks]) portScan = some final ∧
      final.endpoint.mux.sessions 1 = some 0 ∧ final.endpoint.tasks 0 = some task ∧
      task.hasEnded = true := ⟨_, _, rfl, rfl, rfl, rfl⟩
  obtain ⟨final, task, execution, registered, found, ended⟩ := ends
  refine ⟨final, execution, fun always => ?_⟩
  obtain ⟨owner, owns, _, running⟩ := (always.last execution).1 1 0 registered
  obtain rfl := Option.some.inj (found.symm.trans owns)
  simp [ended] at running

/-- Before the handshake fails the run is covered by the condition. -/
theorem tableLive_always_iff_portScan_take :
    Execution.Always (step 431 .rfc1928) TableLive (new 1 [.socks]) (portScan.take 4) ↔
      Execution.Along (step 431 .rfc1928) DropsSession (new 1 [.socks]) (portScan.take 4) :=
  tableLive_always_iff
    (rfl : Execution.run (step 431 .rfc1928) (new 1 [.socks]) (portScan.take 4) = some _)

end Client

end RnsProxy

import HermesMesh.Server.Forwarding

/-!
# What `_relay_forward` hands to each partner

The event should go over the link of a partner where it is up, and otherwise to the HTTP
relay for that partner.  `_relay_forward` is no coroutine function, so that its call of
`client.send` makes a coroutine that nobody awaits; and `RelayClient.forward`, which it
calls for a link that is down, posts to every partner.
-/

namespace HermesMesh.Server

open Python Foundation Foundation.Action Collab MonitorServer

/-- The server with the frames that it has sent over its links, by the partner. -/
structure LinkedServer where
  server : MonitorServer
  frames : List PyStr

/-- What a call of a coroutine function makes: its body runs when it is awaited. -/
structure Coroutine (α : Type) where
  body : Action LinkedServer Fault α

namespace LinkedServer

/-- A call on the rest of the server. -/
def onServer {α : Type} (action : Handler α) : Action LinkedServer Fault α :=
  .zoom LinkedServer.server (fun server linked => { linked with server := server }) action

/-- `WSRelayClient.send` on the link of a partner; the frame holds the envelope. -/
def send (works : PyStr → Bool) (url : PyStr) (connected : Bool) : Coroutine Bool where
  body :=
    if connected && works url then do
      .modify fun linked => { linked with frames := linked.frames ++ [url] }
      return true
    else return false

variable (py : Platform) (moment : RequestMoment) (works : PyStr → Bool) (op : PyStr)
  (payload : JsonObject)

/-- The loop of `_relay_forward`.  `delivered` is `False` or a coroutine, which is true. -/
def forwardOver : (index : Nat) → Dict PyStr Bool → (delivered : Option (Coroutine Bool)) →
    Action LinkedServer Fault (Option (Coroutine Bool))
  | _, [], delivered => return delivered
  | index, (url, connected) :: rest, delivered => do
      if connected then forwardOver (index + 1) rest (some (send works url connected))
      else
        onServer (quietly (forwardIfReady py moment index op payload))
        forwardOver (index + 1) rest delivered

/-- `_relay_forward` -/
def relayForwardOver : Action LinkedServer Fault (Option (Coroutine Bool)) := do
  let linked ← .read
  let delivered ← forwardOver py moment works op payload 0 linked.server.links none
  if linked.server.links.isEmpty then
    onServer (forwardIfReady py moment 0 op payload)
  return delivered

end LinkedServer

open LinkedServer

/-- The event is handed to every partner once: in a frame over its link where that is
connected and works, and otherwise in one envelope.  An envelope goes to every partner. -/
def HandsOver (works : PyStr → Bool) (before after : LinkedServer) : Prop :=
  ∀ url ∈ before.server.partners,
    if before.server.links.get? url = some true ∧ works url = true then
      after.frames.count url = before.frames.count url + 1 ∧
        after.server.dispatched.length = before.server.dispatched.length
    else
      after.frames.count url = before.frames.count url ∧
        after.server.dispatched.length = before.server.dispatched.length + 1

variable {py : Platform} {moment : RequestMoment} {works : PyStr → Bool} {op : PyStr}
  {payload : JsonObject}

theorem run_onServer {α : Type} (action : Handler α) (linked : LinkedServer) :
    (onServer action).run linked =
      ((action.run linked.server).1, ⟨(action.run linked.server).2, linked.frames⟩) := rfl

/-- The server with more messages on their way. -/
def MonitorServer.dispatching (messages : List Envelope) (server : MonitorServer) : MonitorServer :=
  { server with dispatched := server.dispatched ++ messages }

/-- The down links among some. -/
def downLinks (links : Dict PyStr Bool) : Nat := links.countP fun link => !link.2

section Forwarded

variable (allowed : op ∈ allowedOps)

include allowed

/-- A payload that can be signed is dispatched once by each call of `forward`. -/
theorem run_forwardIfReady {server : MonitorServer}
    (forwardable : Forwardable py server.localNodeId payload) (index : Nat) :
    ∃ messages, (forwardIfReady py moment index op payload).run server =
        (.ok (), server.dispatching messages) ∧
      messages.length = if server.ready then 1 else 0 := by
  obtain ⟨message, signed⟩ := (@exists_sign_iff py server.trust server.localNodeId op payload
    (moment.signing index).1 (moment.signing index).2 allowed).mpr forwardable
  rw [forwardIfReady, run_bind_ok (run_read _)]
  by_cases ready : server.ready = true
  case neg =>
    refine ⟨[], ?_, by simp [ready]⟩
    simp [ready, dispatching]
  have partners : server.partners ≠ [] := by
    intro none
    simp [MonitorServer.ready, none] at ready
  refine ⟨[message], ?_, by simp [ready]⟩
  simp only [ready, if_true, forward, run_bind, run_read]
  rw [forwardEnvelope, if_neg (by simp [partners, allowed]), signed]
  rfl

/-- The loop dispatches once for every link that is down, and sends no frame. -/
theorem run_forwardOver {linked : LinkedServer}
    (forwardable : Forwardable py linked.server.localNodeId payload) (index : Nat)
    (links : Dict PyStr Bool) (delivered : Option (Coroutine Bool)) :
    ∃ last messages, (forwardOver py moment works op payload index links delivered).run linked =
        (.ok last, ⟨linked.server.dispatching messages, linked.frames⟩) ∧
      messages.length = if linked.server.ready then downLinks links else 0 := by
  induction links generalizing linked index delivered with
  | nil => exact ⟨delivered, [], by simp [forwardOver, dispatching], by simp [downLinks]⟩
  | cons link rest ih =>
      obtain ⟨url, connected⟩ := link
      cases connected with
      | true =>
          obtain ⟨last, messages, ran, count⟩ :=
            ih forwardable (index + 1) (some (send works url true))
          exact ⟨last, messages, ran, by simpa [downLinks] using count⟩
      | false =>
          obtain ⟨first, forwarded, one⟩ := @run_forwardIfReady py moment op payload allowed
            linked.server forwardable index
          obtain ⟨last, messages, ran, count⟩ := @ih
            ⟨linked.server.dispatching first, linked.frames⟩ forwardable (index + 1) delivered
          refine ⟨last, first ++ messages, ?_, ?_⟩
          · have quiet : (onServer (quietly (forwardIfReady py moment index op payload))).run linked =
                (.ok (), ⟨linked.server.dispatching first, linked.frames⟩) := by
              rw [run_onServer, run_quietly, forwarded]
            rw [forwardOver, if_neg Bool.false_ne_true, run_bind_ok quiet, ran]
            simp [dispatching, List.append_assoc]
          · have sameReady : (linked.server.dispatching first).ready = linked.server.ready := rfl
            rw [List.length_append, one, count, sameReady]
            split <;> simp [downLinks, Nat.add_comm]

/-- A call of `_relay_forward` dispatches once for every link that is down, or once where
there are no links. -/
theorem run_relayForwardOver {linked : LinkedServer}
    (forwardable : Forwardable py linked.server.localNodeId payload) :
    ∃ messages, ((relayForwardOver py moment works op payload).run linked).2 =
        ⟨linked.server.dispatching messages, linked.frames⟩ ∧
      messages.length = if linked.server.ready then
        (if linked.server.links = [] then 1 else downLinks linked.server.links) else 0 := by
  obtain ⟨last, messages, ran, count⟩ := @run_forwardOver py moment works op payload allowed linked
    forwardable 0 linked.server.links none
  rw [relayForwardOver, run_bind_ok (run_read _), run_bind_ok ran]
  by_cases none : linked.server.links = []
  · rw [none] at count
    obtain rfl : messages = [] := List.length_eq_zero_iff.mp (by simpa [downLinks] using count)
    obtain ⟨first, forwarded, one⟩ := @run_forwardIfReady py moment op payload allowed
      (linked.server.dispatching []) forwardable 0
    have falls : (onServer (forwardIfReady py moment 0 op payload)).run
        ⟨linked.server.dispatching [], linked.frames⟩ =
          (.ok (), ⟨(linked.server.dispatching []).dispatching first, linked.frames⟩) := by
      rw [run_onServer, forwarded]
    refine ⟨first, ?_, ?_⟩
    · rw [none, List.isEmpty_nil, if_pos rfl, run_bind_ok falls]
      simp [dispatching]
    · rw [if_pos none]
      exact one
  · refine ⟨messages, ?_, by rw [if_neg none, count]⟩
    rw [if_neg (by simpa using none)]
    rfl

end Forwarded

/-- The loop leaves the rest of the server as the loop without frames does. -/
theorem server_forwardOver (index : Nat) (links : Dict PyStr Bool)
    (delivered : Option (Coroutine Bool)) (linked : LinkedServer) :
    ∃ last, (forwardOver py moment works op payload index links delivered).run linked =
      (.ok last, ⟨((forwardLinks py moment op payload index links).run linked.server).2,
        linked.frames⟩) ∧
      ((forwardLinks py moment op payload index links).run linked.server).1 = .ok () := by
  induction links generalizing linked index delivered with
  | nil => exact ⟨delivered, rfl, rfl⟩
  | cons link rest ih =>
      obtain ⟨url, connected⟩ := link
      cases connected with
      | true => exact ih (index + 1) (some (send works url true)) linked
      | false =>
          have quiet := run_quietly (forwardIfReady py moment index op payload) linked.server
          have quietOver : (onServer (quietly (forwardIfReady py moment index op payload))).run linked =
              (.ok (), ⟨((forwardIfReady py moment index op payload).run linked.server).2,
                linked.frames⟩) := by
            rw [run_onServer, quiet]
          obtain ⟨last, ran, returned⟩ := ih (index + 1) delivered
            ⟨((forwardIfReady py moment index op payload).run linked.server).2, linked.frames⟩
          refine ⟨last, ?_, ?_⟩
          · rw [forwardOver, if_neg Bool.false_ne_true, run_bind_ok quietOver, ran, forwardLinks,
              if_neg Bool.false_ne_true, run_bind_ok quiet]
          · rw [forwardLinks, if_neg Bool.false_ne_true, run_bind_ok quiet]
            exact returned

/-- What the handlers call is the same but for the frames, of which there are none. -/
theorem run_relayForwardOver_snd (linked : LinkedServer) :
    ((relayForwardOver py moment works op payload).run linked).2 =
      ⟨((relayForward py moment op payload).run linked.server).2, linked.frames⟩ := by
  obtain ⟨last, ran, returned⟩ :=
    @server_forwardOver py moment works op payload 0 linked.server.links none linked
  have loop : (forwardLinks py moment op payload 0 linked.server.links).run linked.server =
      (.ok (), ((forwardLinks py moment op payload 0 linked.server.links).run linked.server).2) :=
    Prod.ext returned rfl
  rw [relayForwardOver, run_bind_ok (run_read _), run_bind_ok ran, relayForward,
    run_bind_ok (run_read _), run_bind_ok loop]
  cases linked.server.links.isEmpty with
  | false => rfl
  | true =>
      rw [if_pos rfl, if_pos rfl, run_bind, run_onServer]
      rcases (forwardIfReady py moment 0 op payload).run
        ((forwardLinks py moment op payload 0 linked.server.links).run linked.server).2 with
        ⟨fault | value, after⟩ <;> rfl

/-! ## Every partner once -/

/-- The links are those of the partners, or there are none. -/
def MonitorServer.Spawned (server : MonitorServer) : Prop :=
  server.links = [] ∨ server.links.keys = server.partners

/-- No link works, and just one is down; or no links are configured. -/
def OneLinkDown (works : PyStr → Bool) (links : Dict PyStr Bool) : Prop :=
  links = [] ∨ (∀ url, links.get? url = some true → works url = false) ∧ downLinks links = 1

/-- A link belongs to a partner. -/
theorem mem_partners_of_get? {server : MonitorServer} (spawned : server.Spawned) {url : PyStr}
    {connected : Bool} (link : server.links.get? url = some connected) : url ∈ server.partners := by
  rcases spawned with none | same
  · rw [none] at link
    cases link
  · rw [← same]
    by_contra absent
    rw [Dict.get?_eq_none.mpr absent] at link
    cases link

/-- A call of `_relay_forward` hands an event that can be signed to every partner once just
where there are no partners, or where the local node has a name and there are no links, or
one that is down and otherwise only such that are connected and do not work. -/
theorem handsOver_iff {linked : LinkedServer} (spawned : linked.server.Spawned)
    (allowed : op ∈ allowedOps)
    (forwardable : Forwardable py linked.server.localNodeId payload) :
    HandsOver works linked ((relayForwardOver py moment works op payload).run linked).2 ↔
      linked.server.partners = [] ∨
        linked.server.localNodeId ≠ [] ∧ OneLinkDown works linked.server.links := by
  obtain ⟨messages, ran, count⟩ := @run_relayForwardOver py moment works op payload allowed linked
    forwardable
  rw [ran]
  have each : HandsOver works linked ⟨linked.server.dispatching messages, linked.frames⟩ ↔
      ∀ url ∈ linked.server.partners,
        ¬(linked.server.links.get? url = some true ∧ works url = true) ∧ messages.length = 1 := by
    refine forall₂_congr fun url member => ?_
    split
    · next works => simp [works]
    · next other => simp [other, dispatching]
  rw [each]
  by_cases partners : linked.server.partners = []
  · simp [partners]
  obtain ⟨first, isPartner⟩ := List.exists_mem_of_ne_nil _ partners
  have ready : linked.server.ready = true ↔ linked.server.localNodeId ≠ [] := by
    simp [MonitorServer.ready, partners]
  constructor
  · intro every
    have one := (every first isPartner).2
    rw [count] at one
    by_cases isReady : linked.server.ready = true
    case neg =>
      rw [if_neg isReady] at one
      cases one
    refine .inr ⟨ready.mp isReady, ?_⟩
    by_cases none : linked.server.links = []
    · exact .inl none
    · rw [if_pos isReady, if_neg none] at one
      refine .inr ⟨fun url link => ?_, one⟩
      have idle := (every url (mem_partners_of_get? spawned link)).1
      simpa [link] using idle
  · rintro (impossible | ⟨named, oneDown⟩) url member
    · exact absurd impossible partners
    · rw [count, if_pos (ready.mpr named)]
      rcases oneDown with none | ⟨idle, down⟩
      · simp [none]
      · refine ⟨fun connected => ?_, ?_⟩
        · rw [idle url connected.1] at connected
          cases connected.2
        · split
          · rfl
          · exact down

/-- Two partners with links, of which one is down and one does not work. -/
def oneDown : LinkedServer :=
  ⟨{ MonitorServer.idle [lit "http://b", lit "http://c"] with
    links := [(lit "http://b", false), (lit "http://c", true)] }, []⟩

theorem forwardable_hello : Forwardable .plain (lit "mesh-local") TrustManager.hello :=
  ⟨rfl, rfl, encodable_lit _, encodable_lit _, encodable_lit _, trivial⟩

theorem handsOver_oneDown :
    HandsOver (fun _ => false) oneDown ((relayForwardOver .plain .epoch (fun _ => false)
      (lit "message") TrustManager.hello).run oneDown).2 :=
  (handsOver_iff (.inr rfl) (by decide) forwardable_hello).mpr
    (.inr ⟨by decide, .inr ⟨fun _ _ => rfl, by decide⟩⟩)

/-- The same partners with links, both down. -/
def bothDown : LinkedServer :=
  ⟨{ MonitorServer.idle [lit "http://b", lit "http://c"] with
    links := [(lit "http://b", false), (lit "http://c", false)] }, []⟩

/-- With two links down, every partner gets two envelopes of one event. -/
theorem bothDown_handed_twice :
    ¬HandsOver (fun _ => true) bothDown ((relayForwardOver .plain .epoch (fun _ => true)
      (lit "message") TrustManager.hello).run bothDown).2 := by
  obtain ⟨messages, ran, count⟩ := @run_relayForwardOver .plain .epoch (fun _ => true)
    (lit "message") TrustManager.hello (by decide) bothDown forwardable_hello
  have two : messages.length = 2 := count
  rw [ran]
  intro handsOver
  have one := handsOver (lit "http://b") (by decide)
  rw [if_neg (by decide)] at one
  have length := one.2
  simp only [dispatching, List.length_append, two] at length
  omega

end HermesMesh.Server

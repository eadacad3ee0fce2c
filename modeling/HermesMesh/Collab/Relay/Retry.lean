import HermesMesh.Collab.Relay.Client
import HermesMesh.Foundation.Counting

/-!
# No partner is forgotten

Copies of a message in the queue and in the batch, and attempts of its own task that
no partner has taken, are together at least as many as the partners that miss the
message: a step that uses one of them up gives the message to a partner or puts a copy
in the queue.  A copy alone does not say which partner it is for.
-/

namespace HermesMesh.Collab

open Python Foundation

variable {μ : Type}

/-! ## Counting -/

namespace Round

/-- The attempts of the round that no partner has taken, those to come included. -/
def attempts (round : Round μ) : Nat :=
  match round.flight with
  | none | some ⟨_, some true⟩ => round.remaining.length
  | some _ => round.remaining.length + 1

/-- The copies that the message in hand counts for: none once a partner has taken it. -/
def copies (round : Round μ) : Nat :=
  match round.flight with
  | some ⟨_, some true⟩ => 0
  | _ => 1

/-- The partners that the round is still to deal with. -/
def urls (round : Round μ) : List PyStr := (round.flight.map Attempt.url).toList ++ round.remaining

end Round

namespace RelayNet

variable {nonce : μ → PyStr}

/-- The number of partners that have not accepted a message. -/
def missing (nonce : μ → PyStr) (message : μ) (net : RelayNet μ) : Nat :=
  (net.client.partners.toFinset.filter fun url => !net.accepted.contains (url, nonce message)).card

/-- A step that puts a message in the queue. -/
def puts (net : RelayNet μ) : RelayStep μ → Bool
  | .check (.dispatch index) now =>
      match net.dispatches[index]? with
      | some ⟨_, none, url :: _⟩ => !net.client.available url now
      | _ => false
  | .check .drain _ =>
      match net.drain with
      | some (⟨_, none, []⟩, _) => true
      | _ => false
  | .finish (.dispatch index) received _ =>
      match net.dispatches[index]? with
      | some ⟨_, some ⟨_, answer⟩, _⟩ => !(received && answer == some true)
      | _ => false
  | _ => false

/-- The queue has room for what is put in it. -/
def EvictsNothing (net : RelayNet μ) (input : RelayStep μ) : Prop :=
  net.puts input = true → net.client.queue.length < net.client.queueCap

instance (net : RelayNet μ) (input : RelayStep μ) : Decidable (net.EvictsNothing input) :=
  inferInstanceAs (Decidable (_ → _))

/-- Rounds deal with partners only. -/
def WellRouted (net : RelayNet μ) : Prop :=
  (∀ round ∈ net.dispatches, ∀ url ∈ round.urls, url ∈ net.client.partners) ∧
    ∀ batch, net.drain = some batch → ∀ url ∈ batch.1.urls, url ∈ net.client.partners

/-- A copy of the message is in the queue or in the batch that `drain_loop` processes. -/
def HasCopy (message : μ) (net : RelayNet μ) : Prop :=
  message ∈ net.client.queue ∨
    ∃ batch, net.drain = some batch ∧ (batch.1.message = message ∨ message ∈ batch.2)

/-- No attempt of a task of the message is to be made or under way. -/
def Quiet (message : μ) (net : RelayNet μ) : Prop :=
  ∀ round ∈ net.dispatches, round.message = message → round.flight = none ∧ round.remaining = []

/-- The partners that a message is missing at. -/
theorem mem_missing {net : RelayNet μ} {message : μ} {url : PyStr} :
    url ∈ net.client.partners.toFinset.filter
        (fun url => !net.accepted.contains (url, nonce message)) ↔
      url ∈ net.client.partners ∧ (url, nonce message) ∉ net.accepted := by
  simp

/-- An acceptance never makes a message missing. -/
theorem missing_cons_le (entry : PyStr × PyStr) (message : μ) (net : RelayNet μ) :
    missing nonce message { net with accepted := entry :: net.accepted } ≤
      net.missing nonce message := by
  refine Finset.card_le_card fun url member => ?_
  obtain ⟨partner, absent⟩ := mem_missing.mp member
  exact mem_missing.mpr ⟨partner, fun accepted => absent (List.mem_cons_of_mem _ accepted)⟩

/-- A partner that accepts a message it had not accepted misses it no more. -/
theorem missing_cons {net : RelayNet μ} {url : PyStr} {message : μ}
    (partner : url ∈ net.client.partners) (absent : (url, nonce message) ∉ net.accepted) :
    missing nonce message { net with accepted := (url, nonce message) :: net.accepted } + 1 ≤
      net.missing nonce message := by
  refine Finset.card_lt_card ⟨fun other member => ?_, fun subset => ?_⟩
  · obtain ⟨known, unseen⟩ := mem_missing.mp member
    exact mem_missing.mpr ⟨known, fun accepted => unseen (List.mem_cons_of_mem _ accepted)⟩
  · have inBoth := mem_missing.mp (subset (mem_missing.mpr ⟨partner, absent⟩))
    exact inBoth.2 List.mem_cons_self

theorem round?_urls {net : RelayNet μ} (routed : net.WellRouted) {worker : Worker}
    {round : Round μ} (found : net.round? worker = some round) {url : PyStr}
    (member : url ∈ round.urls) : url ∈ net.client.partners := by
  cases worker with
  | dispatch index => exact routed.1 round (List.mem_of_getElem? found) url member
  | drain =>
      obtain ⟨batch, isBatch, rfl⟩ := Option.map_eq_some_iff.mp found
      exact routed.2 batch isBatch url member

section Supply

variable [DecidableEq μ]

/-! ## Attempts and copies -/

/-- What a round counts for: its attempts in a task, its message in the drain. -/
def weight (message : μ) (worker : Worker) (round : Round μ) : Nat :=
  if round.message = message then
    match worker with
    | .dispatch _ => round.attempts
    | .drain => round.copies
  else 0

/-- The attempts outstanding for a message in tasks of its own. -/
def outstanding (message : μ) (net : RelayNet μ) : Nat :=
  (net.dispatches.map fun round => if round.message = message then round.attempts else 0).sum

/-- The copies of a message in the batch of `drain_loop`. -/
def inBatch (message : μ) (net : RelayNet μ) : Nat :=
  match net.drain with
  | none => 0
  | some (round, rest) => weight message .drain round + rest.count message

/-- Attempts and copies together. -/
def supply (message : μ) (net : RelayNet μ) : Nat :=
  net.outstanding message + net.client.queue.count message + net.inBatch message

/-! ## What the operations do to the supply -/

theorem supply_setRound {net : RelayNet μ} {worker : Worker} {old : Round μ}
    (found : net.round? worker = some old) (new : Round μ) (message : μ) :
    (net.setRound worker new).supply message + weight message worker old =
      net.supply message + weight message worker new := by
  cases worker with
  | dispatch index =>
      have moved := sum_map_set (fun round : Round μ =>
        if round.message = message then round.attempts else 0) found new
      simp only [supply, setRound, outstanding, inBatch, weight]
      omega
  | drain =>
      obtain ⟨batch, isBatch, rfl⟩ := Option.map_eq_some_iff.mp found
      simp only [supply, setRound, outstanding, inBatch, isBatch, Option.map_some]
      omega

theorem supply_queueSafe {net : RelayNet μ} (room : net.client.queue.length < net.client.queueCap)
    (put message : μ) :
    (net.setClient (.queueSafe put)).supply message =
      net.supply message + if put = message then 1 else 0 := by
  simp only [supply, setClient, RelayClient.queueSafe, if_neg (Nat.not_le.mpr room), outstanding,
    inBatch, List.count_append, List.count_singleton, beq_iff_eq]
  omega

theorem supply_setClient {net : RelayNet μ} {update : RelayClient μ → RelayClient μ}
    (keeps : (update net.client).queue = net.client.queue) (message : μ) :
    (net.setClient update).supply message = net.supply message := by
  simp only [supply, setClient, keeps, outstanding, inBatch]

theorem supply_nextMessage {net : RelayNet μ} {round : Round μ}
    (found : net.round? .drain = some round) (message : μ) :
    net.nextMessage.supply message + weight message .drain round = net.supply message := by
  obtain ⟨⟨_, rest⟩, isBatch, rfl⟩ := Option.map_eq_some_iff.mp found
  cases rest with
  | nil => simp only [supply, nextMessage, outstanding, inBatch, isBatch, Option.bind_some,
      List.count_nil]; omega
  | cons next rest =>
      simp only [supply, nextMessage, outstanding, inBatch, isBatch, Option.bind_some, weight,
        Round.start, Round.copies, List.count_cons, beq_iff_eq]
      omega

theorem supply_wake (net : RelayNet μ) (message : μ) :
    net.wake.supply message = net.supply message := by
  unfold wake
  split
  · next put rest asleep queued =>
      simp only [supply, outstanding, inBatch, asleep, queued, weight, Round.start, Round.copies,
        List.count_cons, List.count_nil, beq_iff_eq]
      by_cases same : put = message
      · simp only [same, if_true]
        omega
      · simp only [same, if_false]
        omega
  · rfl

/-! ## The slack -/

/-- From one state to another the supply of a message has grown by as much as the
number of partners that miss it, or by more. -/
def Covers (nonce : μ → PyStr) (message : μ) (before after : RelayNet μ) : Prop :=
  after.missing nonce message + before.supply message ≤
    before.missing nonce message + after.supply message

theorem covers_of_same {message : μ} {before after : RelayNet μ}
    (partners : after.client.partners = before.client.partners)
    (accepted : after.accepted = before.accepted)
    (supplied : before.supply message ≤ after.supply message) :
    Covers nonce message before after := by
  simp only [Covers, missing, partners, accepted]
  omega

/-- A round that goes on without its partner loses at most the one attempt that the
queued copy makes up for. -/
theorem covers_skip {net : RelayNet μ} {worker : Worker} {old : Round μ}
    (found : net.round? worker = some old) {rest : List PyStr}
    (attempts : old.attempts ≤ rest.length + 1)
    (room : ∀ index, worker = .dispatch index → net.client.queue.length < net.client.queueCap)
    (message : μ) : Covers nonce message net (net.skip worker old.message rest) := by
  have moved := supply_setRound found ⟨old.message, none, rest⟩ message
  cases worker with
  | dispatch index =>
      have queued := @supply_queueSafe _ _ (net.setRound (.dispatch index) ⟨old.message, none, rest⟩)
        (by simpa using room index rfl) old.message message
      refine covers_of_same (by simp [skip]) (by simp [skip]) ?_
      simp only [skip, queued]
      by_cases same : old.message = message
      · simp only [weight, if_pos same, Round.attempts] at moved attempts ⊢
        omega
      · simp only [weight, if_neg same] at moved ⊢
        omega
  | drain =>
      refine covers_of_same (by simp [skip]) (by simp [skip]) ?_
      have atMost : old.copies ≤ 1 := by
        unfold Round.copies
        split <;> omega
      simp only [skip]
      by_cases same : old.message = message
      · simp only [weight, if_pos same, Round.copies] at moved atMost ⊢
        omega
      · simp only [weight, if_neg same] at moved ⊢
        omega

theorem covers_check {net : RelayNet μ} {worker : Worker} {now : ℚ}
    (roomy : net.EvictsNothing (.check worker now)) (message : μ) :
    Covers nonce message net (net.check worker now) := by
  unfold check
  split
  · next put url rest found =>
      split
      · next available =>
          -- the attempt to come is now under way
          have moved := supply_setRound found ⟨put, some ⟨url, none⟩, rest⟩ message
          refine covers_of_same (by simp) (by simp) ?_
          cases worker <;> simp only [weight, Round.attempts, Round.copies, List.length_cons] at moved <;>
            omega
      · next unavailable =>
          refine covers_skip found (le_refl _) (fun index isTask => roomy ?_) message
          subst isTask
          have found' : net.dispatches[index]? = some ⟨put, none, url :: rest⟩ := found
          simp only [puts, found']
          simpa using unavailable
  · next put found =>
      cases worker with
      | dispatch index => exact covers_of_same rfl rfl (le_refl _)
      | drain =>
          obtain ⟨batch, isBatch, isRound⟩ := Option.map_eq_some_iff.mp found
          have room : net.client.queue.length < net.client.queueCap := by
            refine roomy ?_
            obtain ⟨round, rest⟩ := batch
            cases isRound
            simp only [puts, isBatch]
          have queued := supply_queueSafe room put message
          have next := @supply_nextMessage _ _ (net.setClient (.queueSafe put)) ⟨put, none, []⟩
            (by rwa [setClient_round?]) message
          refine covers_of_same (by simp [endRound]) (by simp [endRound]) ?_
          simp only [endRound]
          simp only [weight, Round.copies] at next
          omega
  · exact covers_of_same rfl rfl (le_refl _)

theorem covers_arrive {net : RelayNet μ} (routed : net.WellRouted) {worker : Worker}
    {refuses : Bool} (message : μ) :
    Covers nonce message net (net.arrive nonce worker refuses) := by
  unfold arrive
  split
  · next put url rest found =>
      split
      · next refused =>
          have moved := supply_setRound found ⟨put, some ⟨url, some false⟩, rest⟩ message
          refine covers_of_same (by simp) (by simp) ?_
          cases worker <;> simp only [weight, Round.attempts, Round.copies] at moved <;> omega
      · next accepts =>
          have moved := supply_setRound found ⟨put, some ⟨url, some true⟩, rest⟩ message
          have partner := @round?_urls _ _ routed _ _ found url (by simp [Round.urls])
          have absent : (url, nonce put) ∉ net.accepted := fun member => accepts (.inr member)
          have missed : missing nonce message { net.setRound worker ⟨put, some ⟨url, some true⟩, rest⟩
              with accepted := (url, nonce put) :: net.accepted } =
              missing nonce message { net with accepted := (url, nonce put) :: net.accepted } := by
            simp only [missing, setRound_client]
          have supplied : supply message { net.setRound worker ⟨put, some ⟨url, some true⟩, rest⟩
              with accepted := (url, nonce put) :: net.accepted } =
              (net.setRound worker ⟨put, some ⟨url, some true⟩, rest⟩).supply message := rfl
          rw [Covers, missed, supplied]
          by_cases same : put = message
          · -- the one partner that takes the message misses it no more
            subst same
            have fewer := missing_cons partner absent
            cases worker <;>
              simp only [weight, if_true, Round.attempts, Round.copies] at moved <;> omega
          · have fewer := @missing_cons_le _ nonce (url, nonce put) message net
            simp only [weight, if_neg same] at moved
            omega
  · exact covers_of_same rfl rfl (le_refl _)

/-- Once a partner has taken the message, the round counts for it no more. -/
theorem covers_taken {net : RelayNet μ} {worker : Worker} {put : μ} {url : PyStr}
    {rest : List PyStr} (found : net.round? worker = some ⟨put, some ⟨url, some true⟩, rest⟩)
    (message : μ) : Covers nonce message net (net.taken worker url put rest) := by
  cases worker with
  | dispatch index =>
      have moved := supply_setRound found ⟨put, none, rest⟩ message
      have marked := @supply_setClient _ _ (net.setRound (.dispatch index) ⟨put, none, rest⟩)
        (.markOk url) rfl message
      refine covers_of_same (by simp [taken]) (by simp [taken]) ?_
      simp only [taken, marked]
      simp only [weight, Round.attempts] at moved
      omega
  | drain =>
      have next := @supply_nextMessage _ _ (net.setClient (.markOk url)) _
        (by rw [setClient_round?]; exact found) message
      have marked := @supply_setClient _ _ net (.markOk url) rfl message
      refine covers_of_same (by simp [taken]) (by simp [taken]) ?_
      simp only [taken]
      simp only [weight, Round.copies, ite_self] at next
      omega

theorem covers_finish {net : RelayNet μ} {worker : Worker} {received : Bool} {now : ℚ}
    (roomy : net.EvictsNothing (.finish worker received now)) (message : μ) :
    Covers nonce message net (net.finish worker received now) := by
  unfold finish
  split
  · next put url answer rest found =>
      split
      · next isTaken =>
          obtain ⟨-, rfl⟩ := isTaken
          exact covers_taken found message
      · next notTaken =>
          have marked : ((net.giveUp answer url put).setClient (.markFail url now)).supply message =
              net.supply message := by
            unfold giveUp
            split <;> rfl
          have skipped := @covers_skip _ nonce _ ((net.giveUp answer url put).setClient
              (.markFail url now)) worker ⟨put, some ⟨url, answer⟩, rest⟩ (by simpa using found) rest
            (by unfold Round.attempts; split <;> simp_all) (fun index isTask => ?_) message
          · simp only [Covers, missing, setClient_client, setClient_accepted, giveUp_client,
              giveUp_accepted, RelayClient.markFail_partners, marked] at skipped ⊢
            exact skipped
          · subst isTask
            have found' : net.dispatches[index]? = some ⟨put, some ⟨url, answer⟩, rest⟩ := found
            simp only [setClient_client, giveUp_client]
            refine roomy ?_
            simp only [puts, found']
            rw [Bool.not_eq_true', Bool.eq_false_iff]
            exact fun both => notTaken (by simpa using both)
  · exact covers_of_same rfl rfl (le_refl _)

/-- In every step the supply makes up for the partners that miss a message. -/
theorem covers_step {net : RelayNet μ} (routed : net.WellRouted) {input : RelayStep μ}
    (roomy : net.EvictsNothing input) (message : μ) :
    Covers nonce message net ((relayMachine nonce).step net input).2 := by
  cases input with
  | forward put =>
      refine covers_of_same rfl rfl ?_
      simp only [relayMachine, supply, outstanding, inBatch, List.map_append, List.sum_append]
      omega
  | wake =>
      have partners : net.wake.client.partners = net.client.partners := by unfold wake; split <;> rfl
      have accepted : net.wake.accepted = net.accepted := by unfold wake; split <;> rfl
      exact covers_of_same partners accepted (supply_wake net message).ge
  | check worker now => exact covers_check roomy message
  | arrive worker refuses => exact covers_arrive routed message
  | finish worker received now => exact covers_finish roomy message
  | stray index =>
      simp only [relayMachine, stray]
      split
      · next url put found =>
          have fewer := @missing_cons_le _ nonce (url, nonce put) message net
          exact Nat.add_le_add_right fewer _
      · exact covers_of_same rfl rfl (le_refl _)

end Supply

/-! ## Rounds keep to the partners -/

theorem wellRouted_setRound {net : RelayNet μ} (routed : net.WellRouted) {worker : Worker}
    {round : Round μ} (urls : ∀ url ∈ round.urls, url ∈ net.client.partners) :
    (net.setRound worker round).WellRouted := by
  cases worker with
  | dispatch index =>
      refine ⟨fun other member => ?_, routed.2⟩
      rcases List.mem_or_eq_of_mem_set member with old | rfl
      · exact routed.1 other old
      · exact urls
  | drain =>
      refine ⟨routed.1, fun batch isBatch => ?_⟩
      obtain ⟨old, -, rfl⟩ := Option.map_eq_some_iff.mp isBatch
      exact urls

theorem wellRouted_setClient {net : RelayNet μ} (routed : net.WellRouted)
    {update : RelayClient μ → RelayClient μ}
    (keeps : (update net.client).partners = net.client.partners) :
    (net.setClient update).WellRouted := by
  simp only [WellRouted, setClient, keeps] at routed ⊢
  exact routed

theorem wellRouted_nextMessage {net : RelayNet μ} (routed : net.WellRouted) :
    net.nextMessage.WellRouted := by
  refine ⟨routed.1, fun batch isBatch => ?_⟩
  obtain ⟨old, -, isNext⟩ := Option.bind_eq_some_iff.mp isBatch
  split at isNext
  · cases isNext
  · cases isNext
    exact fun url member => by simpa [Round.urls, Round.start] using member

/-- A round that goes on keeps to the partners it had. -/
theorem wellRouted_goOn {net : RelayNet μ} (routed : net.WellRouted) {worker : Worker}
    {old new : Round μ} (found : net.round? worker = some old) (fewer : new.urls ⊆ old.urls) :
    (net.setRound worker new).WellRouted :=
  wellRouted_setRound routed fun _ member => round?_urls routed found (fewer member)

theorem wellRouted_skip {net : RelayNet μ} (routed : net.WellRouted) {worker : Worker}
    {old : Round μ} (found : net.round? worker = some old) {rest : List PyStr}
    (fewer : rest ⊆ old.urls) (message : μ) : (net.skip worker message rest).WellRouted := by
  have onward : (net.setRound worker ⟨message, none, rest⟩).WellRouted :=
    wellRouted_goOn routed found (by simpa [Round.urls] using fewer)
  cases worker with
  | dispatch index => exact wellRouted_setClient onward rfl
  | drain => exact onward

theorem wellRouted_wake {net : RelayNet μ} (routed : net.WellRouted) : net.wake.WellRouted := by
  unfold wake
  split
  · refine ⟨routed.1, fun batch isBatch => ?_⟩
    cases isBatch
    exact fun url member => by simpa [Round.urls, Round.start] using member
  · exact routed

theorem wellRouted_check {net : RelayNet μ} (routed : net.WellRouted) (worker : Worker) (now : ℚ) :
    (net.check worker now).WellRouted := by
  unfold check
  split
  · next put url rest found =>
      split
      · exact wellRouted_goOn routed found (by simp [Round.urls])
      · exact wellRouted_skip routed found (by simp [Round.urls]) put
  · cases worker with
    | dispatch index => exact routed
    | drain => exact wellRouted_nextMessage (wellRouted_setClient routed rfl)
  · exact routed

theorem wellRouted_arrive {net : RelayNet μ} (routed : net.WellRouted) (worker : Worker)
    (refuses : Bool) : (net.arrive nonce worker refuses).WellRouted := by
  unfold arrive
  split
  · next put url rest found =>
      have onward (answer : Bool) :
          (net.setRound worker ⟨put, some ⟨url, some answer⟩, rest⟩).WellRouted :=
        wellRouted_goOn routed found (by simp [Round.urls])
      split
      · exact onward false
      · exact onward true
  · exact routed

theorem wellRouted_finish {net : RelayNet μ} (routed : net.WellRouted) (worker : Worker)
    (received : Bool) (now : ℚ) : (net.finish worker received now).WellRouted := by
  unfold finish
  split
  · next put url answer rest found =>
      split
      · cases worker with
        | dispatch index =>
            exact wellRouted_setClient (wellRouted_goOn routed found (by simp [Round.urls])) rfl
        | drain => exact wellRouted_nextMessage (wellRouted_setClient routed rfl)
      · have gaveUp : (net.giveUp answer url put).WellRouted := by
          unfold giveUp
          split <;> exact routed
        exact wellRouted_skip (wellRouted_setClient gaveUp rfl)
          (show _ = some ⟨put, some ⟨url, answer⟩, rest⟩ by simpa using found) (by simp [Round.urls]) put
  · exact routed

theorem wellRouted_step {net : RelayNet μ} (routed : net.WellRouted) (input : RelayStep μ) :
    ((relayMachine nonce).step net input).2.WellRouted := by
  cases input with
  | forward put =>
      refine ⟨fun round member => ?_, routed.2⟩
      rcases List.mem_append.mp member with old | new
      · exact routed.1 round old
      · rw [List.mem_singleton.mp new]
        exact fun url inUrls => by simpa [Round.urls, Round.start, relayMachine] using inUrls
  | wake => exact wellRouted_wake routed
  | check worker now => exact wellRouted_check routed worker now
  | arrive worker refuses => exact wellRouted_arrive routed worker refuses
  | finish worker received now => exact wellRouted_finish routed worker received now
  | stray index =>
      simp only [relayMachine, stray]
      split
      · exact routed
      · exact routed

/-! ## A missing message has a copy -/

section Supply

variable [DecidableEq μ]

/-- Where no attempt is outstanding, what is left of the supply are copies. -/
theorem hasCopy_of_supply {net : RelayNet μ} {message : μ} (quiet : net.Quiet message)
    (supplied : 0 < net.supply message) : net.HasCopy message := by
  have none : net.outstanding message = 0 := by
    refine List.sum_eq_zero_iff_forall_eq_nat.mpr fun count member => ?_
    obtain ⟨round, inDispatches, rfl⟩ := List.mem_map.mp member
    split
    · next same =>
        obtain ⟨landed, done⟩ := quiet round inDispatches same
        simp only [Round.attempts, landed, done, List.length_nil]
    · rfl
  rw [supply, none] at supplied
  by_cases queued : message ∈ net.client.queue
  · exact .inl queued
  rw [List.count_eq_zero_of_not_mem queued] at supplied
  right
  cases isBatch : net.drain with
  | none =>
      rw [inBatch, isBatch] at supplied
      cases supplied
  | some batch =>
      refine ⟨batch, rfl, ?_⟩
      by_contra absent
      rw [not_or] at absent
      simp only [inBatch, isBatch, weight, if_neg absent.1, List.count_eq_zero_of_not_mem absent.2]
        at supplied
      cases supplied

/-- After `forward` the supply makes up for every partner. -/
theorem missing_le_supply_forward (message : μ) (net : RelayNet μ) :
    let after := ((relayMachine nonce).step net (.forward message)).2
    after.missing nonce message ≤ after.supply message := by
  intro after
  have few : net.missing nonce message ≤ net.client.partners.length :=
    (Finset.card_filter_le _ _).trans (List.toFinset_card_le _)
  have rounds : after.supply message =
      net.supply message + net.client.partners.length := by
    simp only [after, relayMachine, supply, outstanding, inBatch, List.map_append,
      List.map_singleton, List.sum_append, List.sum_singleton, Round.start, Round.attempts, if_true]
    omega
  rw [rounds]
  exact few.trans (Nat.le_add_left _ _)

end Supply

/-- In every run in which the queue's cap evicts nothing, while a partner has not
accepted a message that was forwarded and no attempt of a task of that message is to be
made or under way, a copy of it is in the queue or in the batch. -/
theorem copy_of_missing (nonce : μ → PyStr) {start : RelayNet μ}
    (idle : start.dispatches = [] ∧ start.drain = none) {inputs : List (RelayStep μ)}
    (roomy : (relayMachine nonce).Allowed EvictsNothing start inputs) {message : μ}
    (sent : .forward message ∈ inputs) :
    let net := (relayMachine nonce).run start inputs
    ∀ url ∈ net.client.partners, (url, nonce message) ∉ net.accepted → net.Quiet message →
      net.HasCopy message := by
  classical
  intro net url partner absent quiet
  obtain ⟨past, rest, rfl⟩ := List.append_of_mem sent
  obtain ⟨roomyPast, -, roomyRest⟩ := (relayMachine nonce).allowed_append.mp roomy
  have routed : ((relayMachine nonce).run start past).WellRouted :=
    Machine.run_invariant EvictsNothing WellRouted
      (fun _ input routed _ => wellRouted_step routed input)
      (by simp [WellRouted, idle.1, idle.2]) roomyPast
  -- from the message's `forward` on, the supply makes up for the partners that miss it
  have covered : net.WellRouted ∧ net.missing nonce message ≤ net.supply message := by
    simp only [net, Machine.run_append, Machine.run_cons]
    refine Machine.run_invariant EvictsNothing
      (fun net => net.WellRouted ∧ net.missing nonce message ≤ net.supply message)
      (fun state input holds allowed => ?_)
      ⟨wellRouted_step routed _, missing_le_supply_forward message _⟩ roomyRest
    have covers := @covers_step _ nonce _ _ holds.1 _ allowed message
    refine ⟨wellRouted_step holds.1 input, ?_⟩
    have before := holds.2
    simp only [Covers] at covers
    omega
  refine hasCopy_of_supply quiet (lt_of_lt_of_le ?_ covered.2)
  exact Finset.card_pos.mpr ⟨url, mem_missing.mpr ⟨partner, absent⟩⟩

/-- A client with two partners and nothing to do. -/
def twoPartners : RelayNet PyStr :=
  ⟨⟨[lit "a", lit "b"], 3, 15, 500, RelayClient.fiveHundred_pos, [], []⟩, [], none, [], []⟩

/-- While `a` cannot be reached, the drain takes the copy that was queued for it and
posts it to `b`, where it overtakes the request of the message's own task. -/
def drainOvertakes : List (RelayStep PyStr) :=
  [.forward (lit "n"), .check (.dispatch 0) 0, .finish (.dispatch 0) false 0,
    .check (.dispatch 0) 0, .wake, .check .drain 0, .finish .drain false 0, .check .drain 0,
    .arrive .drain false, .finish .drain true 0]

/-- The request of the message's task arrives at `b`, where its nonce is refused, and the task
queues the message. -/
def dispatchFollows : List (RelayStep PyStr) :=
  [.arrive (.dispatch 0) false, .finish (.dispatch 0) true 0]

theorem copy_after_dispatch :
    let net := (relayMachine id).run twoPartners (drainOvertakes ++ dispatchFollows)
    lit "a" ∈ net.client.partners ∧ (lit "a", lit "n") ∉ net.accepted ∧
      net.HasCopy (lit "n") := by
  have member : lit "a" ∈ ((relayMachine id).run twoPartners
      (drainOvertakes ++ dispatchFollows)).client.partners := by decide +kernel
  have absent : (lit "a", lit "n") ∉ ((relayMachine id).run twoPartners
      (drainOvertakes ++ dispatchFollows)).accepted := by decide +kernel
  exact ⟨member, absent, copy_of_missing id ⟨rfl, rfl⟩ (by decide +kernel) List.mem_cons_self
    (lit "a") member absent (by unfold Quiet; decide +kernel)⟩

/-- No attempt of a task of the message for this one partner is to be made or under way. -/
def QuietFor (url : PyStr) (message : μ) (net : RelayNet μ) : Prop :=
  ∀ round ∈ net.dispatches, round.message = message → url ∉ round.urls

/-- With the attempts for other partners left out of account there may be no copy. -/
theorem no_copy_while_dispatched :
    let net := (relayMachine id).run twoPartners drainOvertakes
    (relayMachine id).Allowed EvictsNothing twoPartners drainOvertakes ∧
      lit "a" ∈ net.client.partners ∧ (lit "a", lit "n") ∉ net.accepted ∧
      net.QuietFor (lit "a") (lit "n") ∧ ¬net.HasCopy (lit "n") := by
  refine ⟨by decide +kernel, by decide +kernel, by decide +kernel,
    by unfold QuietFor; decide +kernel, ?_⟩
  have queued : ((relayMachine id).run twoPartners drainOvertakes).client.queue = [] := by
    decide +kernel
  have batch : ((relayMachine id).run twoPartners drainOvertakes).drain = none := rfl
  rintro (inQueue | ⟨_, isBatch, -⟩)
  · rw [queued] at inQueue
    cases inQueue
  · rw [batch] at isBatch
    cases isBatch

end RelayNet

end HermesMesh.Collab

import Rsfu.GuardedRun
import Rsfu.RelayPeer
import Rsfu.TaskTable

/-! Requests and replies of a relay peer and its remote over a channel that
delays and reorders them. Each call makes its generator anew, so all requests
have one id, and replies find their call only while one request is open at a time. -/
namespace Rsfu
open GuardedRun TaskTable

def RelayCall.Active (c : RelayCall) : Prop := ∀ result, c.state ≠ .returned result

def CallState.payload : CallState → List Bytes
  | .received (some payload) => [payload]
  | .returned (.ok payload) => [payload]
  | _ => []

/-- The payloads that reached the call: those it took and those in its channel. -/
def RelayCall.taken (c : RelayCall) : List Bytes := c.state.payload ++ c.events

/-- What one step of a call or one delivery to it does to the shared part of the peer. -/
structure RelayPeer.Moved (p p' : RelayPeer) (k : Nat) (c c' : RelayCall) (arrived : List Bytes) : Prop where
  found : p.calls[k]? = some c
  calls : p'.calls = p.calls.set k c'
  request : c'.request = c.request
  active : c.Active
  taken : ∀ payload ∈ c'.taken, payload ∈ c.taken ∨ payload ∈ arrived
  pending : ∀ id j, p'.pendingRequests id = some j →
    (p.pendingRequests id = some j ∧ (c'.Active ∨ id ≠ c.request.id)) ∨
      (j = k ∧ id = c.request.id ∧ c'.Active)

theorem update_eq_some {α β : Type*} [DecidableEq α] {m : α → Option β} {key a : α} {v : Option β} {b : β}
    (h : Function.update m key v a = some b) : (m a = some b ∧ a ≠ key) ∨ (a = key ∧ v = some b) := by
  by_cases same : a = key
  · subst same
    rw [Function.update_self] at h
    exact Or.inr ⟨rfl, h⟩
  · rw [Function.update_of_ne same] at h
    exact Or.inl ⟨h, same⟩

theorem RelayPeer.Moved.lookup {p p' : RelayPeer} {k : Nat} {c c' : RelayCall} {arrived : List Bytes}
    (moved : p.Moved p' k c c' arrived) (j : Nat) : p'.calls[j]? = if k = j then some c' else p.calls[j]? := by
  rw [moved.calls, lookup_set moved.found]

namespace RelayPeer

theorem insertPending_moved {p p' : RelayPeer} {k : Nat} (h : p.insertPending k = some p') :
    ∃ c c', p.Moved p' k c c' [] := by
  unfold insertPending at h
  split at h
  next req events _ found =>
      cases h
      refine ⟨_, _, found, rfl, rfl, fun _ => nofun, fun _ => Or.inl, fun id j entry => ?_⟩
      rcases update_eq_some entry with ⟨kept, other⟩ | ⟨same, inserted⟩
      · exact Or.inl ⟨kept, Or.inr other⟩
      · exact Or.inr ⟨(Option.some.inj inserted).symm, same, fun _ => nofun⟩
  · cases h

theorem timeout_moved {p p' : RelayPeer} {k : Nat} (h : p.timeout k = some p') :
    ∃ c c', p.Moved p' k c c' [] := by
  unfold timeout at h
  split at h
  next req events found =>
      cases h
      exact ⟨_, _, found, rfl, rfl, fun _ => nofun, fun _ => Or.inl,
        fun _ _ entry => Or.inl ⟨entry, Or.inl fun _ => nofun⟩⟩
  · cases h

theorem receive_moved {p p' : RelayPeer} {k : Nat} (h : p.receive k = some p') :
    ∃ c c', p.Moved p' k c c' [] := by
  unfold receive at h
  split at h
  next req data events found =>
      cases h
      exact ⟨_, _, found, rfl, rfl, fun _ => nofun, fun _ => Or.inl,
        fun _ _ entry => Or.inl ⟨entry, Or.inl fun _ => nofun⟩⟩
  next req found =>
      split at h
      · cases h
      · cases h
        exact ⟨_, _, found, rfl, rfl, fun _ => nofun, fun _ => Or.inl,
          fun _ _ entry => Or.inl ⟨entry, Or.inl fun _ => nofun⟩⟩
  · cases h

theorem result_payload {state : CallState} {result : Except RelayError Bytes} (h : state.result = some result) :
    (∀ r, state ≠ .returned r) ∧ (CallState.returned result).payload = state.payload := by
  unfold CallState.result at h
  split at h <;> cases h <;> exact ⟨fun _ => nofun, rfl⟩

theorem finish_moved {p p' : RelayPeer} {k : Nat} (h : p.finish k = some p') :
    ∃ c c', p.Moved p' k c c' [] := by
  unfold finish at h
  split at h
  next req state events _ found =>
      obtain ⟨result, done, rfl⟩ := Option.map_eq_some_iff.mp h
      obtain ⟨active, payload⟩ := result_payload done
      refine ⟨_, _, found, rfl, rfl, active, fun x taken => Or.inl ?_, fun id j entry => ?_⟩
      · unfold RelayCall.taken at taken ⊢
        rwa [payload] at taken
      · rcases update_eq_some entry with ⟨kept, other⟩ | ⟨-, inserted⟩
        · exact Or.inl ⟨kept, Or.inr other⟩
        · cases inserted
  · cases h

/-- A reply either changes nothing or is delivered to the call its id is pending for. -/
theorem handleReply_moved {p p' : RelayPeer} {r : Request} (h : p.handleReply r = some p') :
    p' = p ∨ ∃ k c c', p.pendingRequests r.id = some k ∧ p.Moved p' k c c' [r.payload] := by
  unfold handleReply at h
  split at h
  · cases h
  · split at h
    · cases h
      exact Or.inl rfl
    next k entry =>
        split at h
        · cases h
          exact Or.inl rfl
        · cases h
          exact Or.inl rfl
        next req state events active found =>
            cases h
            have open_call : RelayCall.Active ⟨req, state, events⟩ := active
            refine Or.inr ⟨k, _, _, entry, found, rfl, rfl, open_call, fun x taken => ?_, ?_⟩
            swap
            · exact fun _ _ entry => Or.inl ⟨entry, Or.inl open_call⟩
            unfold RelayCall.taken at taken ⊢
            rwa [← List.append_assoc, List.mem_append] at taken

end RelayPeer

/-- A peer and what travels between it and its remote. Messages are tagged with the
call they belong to; the tags, and the log of payloads answered, are not read by the code. -/
structure RelayLink where
  peer : RelayPeer := {}
  requests : List (Nat × Request) := []
  replies : List (Nat × Request) := []
  answers : List (Nat × Bytes) := []

inductive RelayStep where
  | request (event : String) (payload : Bytes)
  | insert (k : Nat)
  | timeout (k : Nat)
  | receive (k : Nat)
  | finish (k : Nat)
  | answer (i : Nat) (payload : Bytes)
  | ignore (i : Nat)
  | deliver (i : Nat)

namespace RelayLink

def withPeer (g : RelayLink) (peer : RelayPeer) : RelayLink := { g with peer }

def step (rng : StdRng) (g : RelayLink) : RelayStep → Option RelayLink
  | .request event payload =>
      let (peer, req) := g.peer.request rng event payload
      some { g with peer, requests := g.requests ++ [(g.peer.calls.length, req)] }
  | .insert k => (g.peer.insertPending k).map g.withPeer
  | .timeout k => (g.peer.timeout k).map g.withPeer
  | .receive k => (g.peer.receive k).map g.withPeer
  | .finish k => (g.peer.finish k).map g.withPeer
  | .answer i payload => g.requests[i]?.map fun (k, req) =>
      { g with
        requests := g.requests.eraseIdx i
        replies := g.replies ++ [(k, RelayPeer.reply req.id req.event payload)]
        answers := g.answers ++ [(k, payload)] }
  | .ignore i => g.requests[i]?.map fun _ => { g with requests := g.requests.eraseIdx i }
  | .deliver i => g.replies[i]?.bind fun (_, r) =>
      (g.peer.handleReply r).map fun peer => { g with peer, replies := g.replies.eraseIdx i }

/-- The call has not returned, or its request or its reply is still on the way. -/
def Open (g : RelayLink) (k : Nat) : Prop :=
  (∃ c, g.peer.calls[k]? = some c ∧ c.Active) ∨ (∃ m ∈ g.requests, m.1 = k) ∨ ∃ m ∈ g.replies, m.1 = k

/-- Open requests have distinct ids, and a call takes only the answer to its own request. -/
structure Correlated (g : RelayLink) : Prop where
  distinct : ∀ (j k : Nat) (c d : RelayCall), g.Open j → g.Open k → g.peer.calls[j]? = some c →
    g.peer.calls[k]? = some d →
    c.request.id = d.request.id → j = k
  answered : ∀ (k : Nat) (c : RelayCall) payload, g.peer.calls[k]? = some c → payload ∈ c.state.payload →
    (k, payload) ∈ g.answers

/-- No request is made while an earlier one is open. -/
def Alone (g : RelayLink) : RelayStep → Prop
  | .request _ _ => ∀ k, ¬ g.Open k
  | _ => True

/-- At most one call is open, and what can still reach a call is its own answer. -/
structure Serial (rng : StdRng) (g : RelayLink) : Prop where
  single : ∀ j k, g.Open j → g.Open k → j = k
  known : ∀ k, g.Open k → ∃ c, g.peer.calls[k]? = some c
  ids : ∀ (k : Nat) (c : RelayCall), g.peer.calls[k]? = some c → c.request.id = rng.requestId
  pending : ∀ id k, g.peer.pendingRequests id = some k → ∃ c, g.peer.calls[k]? = some c ∧ c.request.id = id ∧ c.Active
  replied : ∀ m ∈ g.replies, (m.1, m.2.payload) ∈ g.answers
  taken : ∀ (k : Nat) (c : RelayCall), g.peer.calls[k]? = some c → ∀ payload ∈ c.taken, (k, payload) ∈ g.answers

theorem Serial.correlated {rng : StdRng} {g : RelayLink} (inv : g.Serial rng) : g.Correlated where
  distinct j k _ _ left right _ _ _ := inv.single j k left right
  answered k c _ found took := inv.taken k c found _ (List.mem_append_left _ took)

theorem Open.of_moved {g : RelayLink} {peer' : RelayPeer} {k : Nat} {c c' : RelayCall} {arrived : List Bytes}
    {replies' : List (Nat × Request)} (moved : g.peer.Moved peer' k c c' arrived)
    (kept : ∀ m ∈ replies', m ∈ g.replies)
    {j : Nat} (h : Open { g with peer := peer', replies := replies' } j) : g.Open j := by
  rcases h with ⟨d, found, active⟩ | asked | ⟨m, mem, tag⟩
  · change peer'.calls[j]? = some d at found
    rw [moved.calls] at found
    rcases lookup_set_cases found with ⟨rfl, rfl⟩ | ⟨-, old⟩
    · exact Or.inl ⟨c, moved.found, moved.active⟩
    · exact Or.inl ⟨d, old, active⟩
  · exact Or.inr (Or.inl asked)
  · exact Or.inr (Or.inr ⟨m, kept m mem, tag⟩)

/-- A step of one call keeps the invariant when only its own answers arrive. -/
theorem Serial.moved {rng : StdRng} {g : RelayLink} {peer' : RelayPeer} {k : Nat} {c c' : RelayCall}
    {arrived : List Bytes}
    {replies' : List (Nat × Request)} (inv : g.Serial rng) (moved : g.peer.Moved peer' k c c' arrived)
    (own : ∀ payload ∈ arrived, (k, payload) ∈ g.answers) (kept : ∀ m ∈ replies', m ∈ g.replies) :
    Serial rng { g with peer := peer', replies := replies' } where
  single j j' left right := inv.single j j' (left.of_moved moved kept) (right.of_moved moved kept)
  known j opened := by
    rw [moved.lookup]
    split
    · exact ⟨c', rfl⟩
    · exact inv.known j (opened.of_moved moved kept)
  ids j d found := by
    rw [moved.calls] at found
    rcases lookup_set_cases found with ⟨rfl, rfl⟩ | ⟨-, old⟩
    · rw [moved.request]
      exact inv.ids j c moved.found
    · exact inv.ids j d old
  pending id j entry := by
    rw [moved.lookup]
    rcases moved.pending id j entry with ⟨before, still⟩ | ⟨rfl, same, active⟩
    · obtain ⟨d, found, same, active⟩ := inv.pending id j before
      split
      next own =>
          subst own
          cases moved.found.symm.trans found
          refine ⟨c', rfl, by rw [moved.request, same], still.resolve_right fun other => other same.symm⟩
      · exact ⟨d, found, same, active⟩
    · rw [if_pos rfl]
      exact ⟨c', rfl, by rw [moved.request, same], active⟩
  replied m mem := inv.replied m (kept m mem)
  taken j d found payload mem := by
    rw [moved.calls] at found
    rcases lookup_set_cases found with ⟨rfl, rfl⟩ | ⟨-, old⟩
    · exact (moved.taken payload mem).elim (inv.taken j c moved.found payload) (own payload)
    · exact inv.taken j d old payload mem

/-- Messages that only leave, or answer an open call, keep the invariant. -/
theorem Serial.carried {rng : StdRng} {g g' : RelayLink} (inv : g.Serial rng) (peer : g'.peer = g.peer)
    (opened : ∀ k, g'.Open k → g.Open k) (replied : ∀ m ∈ g'.replies, (m.1, m.2.payload) ∈ g'.answers)
    (kept : ∀ m ∈ g.answers, m ∈ g'.answers) : g'.Serial rng where
  single j k left right := inv.single j k (opened j left) (opened k right)
  known k now := by
    rw [peer]
    exact inv.known k (opened k now)
  ids k c found := inv.ids k c (peer ▸ found)
  pending id k entry := by
    rw [peer] at entry ⊢
    exact inv.pending id k entry
  replied := replied
  taken k c found payload mem := kept _ (inv.taken k c (peer ▸ found) payload mem)

theorem Serial.answer {rng : StdRng} {g g' : RelayLink} {i : Nat} {payload : Bytes} (inv : g.Serial rng)
    (h : g.step rng (.answer i payload) = some g') : g'.Serial rng := by
  obtain ⟨⟨k, req⟩, found, rfl⟩ := Option.map_eq_some_iff.mp h
  have asking : (k, req) ∈ g.requests := List.mem_of_getElem? found
  refine inv.carried rfl (fun j opened => ?_) (fun m mem => ?_) fun m => List.mem_append_left _
  · rcases opened with active | ⟨m, mem, tag⟩ | ⟨m, mem, tag⟩
    · exact Or.inl active
    · exact Or.inr (Or.inl ⟨m, List.mem_of_mem_eraseIdx mem, tag⟩)
    · rcases List.mem_append.mp mem with old | new
      · exact Or.inr (Or.inr ⟨m, old, tag⟩)
      · cases List.mem_singleton.mp new
        exact Or.inr (Or.inl ⟨_, asking, tag⟩)
  · rcases List.mem_append.mp mem with old | new
    · exact List.mem_append_left _ (inv.replied m old)
    · cases List.mem_singleton.mp new
      exact List.mem_append_right _ (List.mem_singleton_self _)

theorem Serial.fewer {rng : StdRng} {g : RelayLink} {requests replies : List (Nat × Request)} (inv : g.Serial rng)
    (asked : ∀ m ∈ requests, m ∈ g.requests) (answered : ∀ m ∈ replies, m ∈ g.replies) :
    Serial rng { g with requests, replies } := by
  refine inv.carried rfl (fun j opened => ?_) (fun m mem => inv.replied m (answered m mem)) fun _ => id
  rcases opened with active | ⟨m, mem, tag⟩ | ⟨m, mem, tag⟩
  · exact Or.inl active
  · exact Or.inr (Or.inl ⟨m, asked m mem, tag⟩)
  · exact Or.inr (Or.inr ⟨m, answered m mem, tag⟩)

theorem Open.of_request {rng : StdRng} {g g' : RelayLink} {event : String} {payload : Bytes}
    (h : g.step rng (.request event payload) = some g') {k : Nat} (opened : g'.Open k) :
    g.Open k ∨ k = g.peer.calls.length := by
  cases h
  rcases opened with ⟨c, found, active⟩ | ⟨m, mem, tag⟩ | answered
  · rcases lookup_append found with old | ⟨new, -⟩
    · exact Or.inl (Or.inl ⟨c, old, active⟩)
    · exact Or.inr new
  · rcases List.mem_append.mp mem with old | new
    · exact Or.inl (Or.inr (Or.inl ⟨m, old, tag⟩))
    · cases List.mem_singleton.mp new
      exact Or.inr tag.symm
  · exact Or.inl (Or.inr (Or.inr answered))

/-- A request made while no call is open is the only open one, and finds nothing pending. -/
theorem Serial.request {rng : StdRng} {g g' : RelayLink} {event : String} {payload : Bytes} (inv : g.Serial rng)
    (alone : ∀ k, ¬ g.Open k) (h : g.step rng (.request event payload) = some g') : g'.Serial rng := by
  have newest {k : Nat} (opened : g'.Open k) : k = g.peer.calls.length := (opened.of_request h).resolve_left (alone k)
  cases h
  exact {
    single := fun j k left right => (newest left).trans (newest right).symm
    known := fun k opened => by
      cases newest opened
      exact ⟨_, List.getElem?_concat_length⟩
    ids := fun k c found => by
      rcases lookup_append found with old | ⟨-, rfl⟩
      · exact inv.ids k c old
      · rfl
    pending := fun id k entry => by
      obtain ⟨c, found, -, active⟩ := inv.pending id k entry
      exact absurd (Or.inl ⟨c, found, active⟩) (alone k)
    replied := inv.replied
    taken := fun k c found payload mem => by
      rcases lookup_append found with old | ⟨-, rfl⟩
      · exact inv.taken k c old payload mem
      · cases mem }

theorem step_serial {rng : StdRng} {g g' : RelayLink} {s : RelayStep} (inv : g.Serial rng) (alone : g.Alone s)
    (h : g.step rng s = some g') : g'.Serial rng := by
  cases s with
  | request event payload => exact inv.request alone h
  | insert k =>
      obtain ⟨peer', moves, rfl⟩ := Option.map_eq_some_iff.mp h
      obtain ⟨c, c', moved⟩ := RelayPeer.insertPending_moved moves
      exact inv.moved moved nofun fun _ => id
  | timeout k =>
      obtain ⟨peer', moves, rfl⟩ := Option.map_eq_some_iff.mp h
      obtain ⟨c, c', moved⟩ := RelayPeer.timeout_moved moves
      exact inv.moved moved nofun fun _ => id
  | receive k =>
      obtain ⟨peer', moves, rfl⟩ := Option.map_eq_some_iff.mp h
      obtain ⟨c, c', moved⟩ := RelayPeer.receive_moved moves
      exact inv.moved moved nofun fun _ => id
  | finish k =>
      obtain ⟨peer', moves, rfl⟩ := Option.map_eq_some_iff.mp h
      obtain ⟨c, c', moved⟩ := RelayPeer.finish_moved moves
      exact inv.moved moved nofun fun _ => id
  | answer i payload => exact inv.answer h
  | ignore i =>
      obtain ⟨-, -, rfl⟩ := Option.map_eq_some_iff.mp h
      exact inv.fewer (fun m => List.mem_of_mem_eraseIdx) fun _ => id
  | deliver i =>
      obtain ⟨⟨k, r⟩, found, next⟩ := Option.bind_eq_some_iff.mp h
      obtain ⟨peer', moves, rfl⟩ := Option.map_eq_some_iff.mp next
      have arriving : (k, r) ∈ g.replies := List.mem_of_getElem? found
      have kept : ∀ m ∈ g.replies.eraseIdx i, m ∈ g.replies := fun m => List.mem_of_mem_eraseIdx
      rcases RelayPeer.handleReply_moved moves with rfl | ⟨j, c, c', entry, moved⟩
      · exact inv.fewer (fun _ => id) kept
      · obtain ⟨d, foundCall, -, active⟩ := inv.pending r.id j entry
        have own : k = j := inv.single k j (Or.inr (Or.inr ⟨_, arriving, rfl⟩)) (Or.inl ⟨d, foundCall, active⟩)
        subst own
        refine inv.moved moved (fun payload mem => ?_) kept
        cases List.mem_singleton.mp mem
        exact inv.replied _ arriving

/-- A request made while another call is open shares its id. -/
theorem Serial.request_collides {rng : StdRng} {g g' : RelayLink} {event : String} {payload : Bytes} {k : Nat}
    (inv : g.Serial rng) (opened : g.Open k) (h : g.step rng (.request event payload) = some g') :
    ¬ g'.Correlated := by
  intro correlated
  obtain ⟨c, found⟩ := inv.known k opened
  have within : k < g.peer.calls.length := (List.getElem?_eq_some_iff.mp found).1
  cases h
  have newest : (g.peer.request rng event payload).1.calls[g.peer.calls.length]? =
      some { request := (g.peer.request rng event payload).2 } := List.getElem?_concat_length
  have older : (g.peer.request rng event payload).1.calls[k]? = some c :=
    (List.getElem?_append_left within).trans found
  refine Nat.ne_of_lt within (correlated.distinct _ _ _ _ ?_ (Or.inl ⟨_, newest, fun _ => nofun⟩) older newest ?_)
  · rcases opened with ⟨d, _, active⟩ | ⟨m, mem, tag⟩ | answered
    · cases found.symm.trans ‹_›
      exact Or.inl ⟨c, older, active⟩
    · exact Or.inr (Or.inl ⟨m, List.mem_append_left _ mem, tag⟩)
    · exact Or.inr (Or.inr answered)
  · exact inv.ids k c found

theorem correlated_iff_alone {rng : StdRng} {g : RelayLink} {s : RelayStep} (inv : g.Serial rng) :
    (∀ g', g.step rng s = some g' → g'.Correlated) ↔ g.Alone s := by
  refine ⟨fun holds => ?_, fun alone g' h => (step_serial inv alone h).correlated⟩
  cases s with
  | request event payload => exact fun k opened => inv.request_collides opened rfl (holds _ rfl)
  | _ => trivial

theorem start_not_open (k : Nat) : ¬ Open {} k := by
  rintro (⟨c, found, -⟩ | ⟨m, mem, -⟩ | ⟨m, mem, -⟩)
  · cases found
  · cases mem
  · cases mem

theorem start_serial (rng : StdRng) : Serial rng {} where
  single j _ left _ := absurd left (start_not_open j)
  known k opened := absurd opened (start_not_open k)
  ids _ _ found := by cases found
  pending _ _ entry := by cases entry
  replied _ mem := by cases mem
  taken _ _ found := by cases found

/-- Every step of a run leads to a state where replies match their requests exactly
when each request of the run is made while no earlier one is open. -/
theorem guarded_correlated_iff (rng : StdRng) (steps : List RelayStep) :
    Guarded (step rng) (fun g s => ∀ g', g.step rng s = some g' → g'.Correlated) {} steps ↔
      Guarded (step rng) Alone {} steps :=
  guarded_iff (Serial rng) (fun _ _ inv => correlated_iff_alone inv)
    (fun _ _ _ inv alone moved => step_serial inv alone moved) (start_serial rng)

/-- A generator whose first number is the one `StdRng` gives for the seed. -/
def seededRng : StdRng := ⟨List UInt8, id, fun s => (10719222850664546238, s)⟩

/-- Request 0 times out and request 1 is made before the answer to 0 arrives. -/
def lateReplySteps : List RelayStep :=
  [.request "ping" [0], .insert 0, .timeout 0, .finish 0, .request "ping" [1], .insert 1, .answer 0 [7]]

/-- The two open requests share their id, and request 1 takes the answer to request 0. -/
theorem late_reply_taken :
    ∃ g g', run (step seededRng) {} lateReplySteps = some g ∧ g.Open 0 ∧ g.Open 1 ∧ ¬ g.Correlated ∧
      run (step seededRng) g [.deliver 0, .receive 1] = some g' ∧ g'.answers = [(0, [7])] ∧
      (g'.peer.calls[1]?.map fun c => c.state.payload) = some [[7]] ∧ ¬ g'.Correlated := by
  have late : ∃ g, run (step seededRng) {} lateReplySteps = some g ∧ g.Open 0 ∧ g.Open 1 :=
    ⟨_, rfl, Or.inr (Or.inr ⟨_, List.mem_singleton_self _, rfl⟩), Or.inl ⟨_, rfl, fun _ => nofun⟩⟩
  obtain ⟨g, reached, open0, open1⟩ := late
  refine ⟨g, _, reached, open0, open1, fun correlated => ?_, by cases reached; rfl, rfl, rfl, fun correlated => ?_⟩
  · cases reached
    exact Nat.zero_ne_one (correlated.distinct 0 1 _ _ open0 open1 rfl rfl rfl)
  · exact absurd (correlated.answered 1 _ [7] rfl (List.mem_singleton_self _)) (by decide)

end RelayLink

end Rsfu

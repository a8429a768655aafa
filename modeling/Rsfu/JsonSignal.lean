import Rsfu.GuardedRun

/-! JSON-RPC messages of a client. Every response goes out under the id of its message,
which is unwrapped on each path that responds; the paths that do not are a failed answer
after a join, a success of two of the methods, and an unknown method. -/
namespace Rsfu
open GuardedRun

variable {ι δ κ : Type}

/-- The parameters of a message; session descriptions and candidates are whatever the peer
connections take. -/
inductive Parameters (δ κ : Type) where
  | join (sid uid : String) (offer : δ)
  | offer (desc : δ)
  | trickle (target : UInt8) (candidate : κ)
  | negotiation (desc : δ)

structure JsonRequest (ι δ κ : Type) where
  method : String
  params : Option (Parameters δ κ)
  id : Option ι

/-- The code of an error is -1 throughout. -/
structure JsonResponse (ι δ : Type) where
  id : ι
  result : Option δ
  error : Option String

/-- How the operations of the peer end for a message; an error is its text. -/
structure PeerAnswers (δ : Type) where
  join : Except String Unit
  answer : Except String δ
  setRemoteDescription : Except String Unit
  trickle : Except String Unit

/-- What `handle` does: calls of the peer, and responses. -/
inductive SignalEffect (ι δ κ : Type) where
  | onOffer
  | onIceCandidate
  | join (sid uid : String)
  | answer (desc : δ)
  | setRemoteDescription (desc : δ)
  | trickle (candidate : κ) (target : UInt8)
  | respond (response : JsonResponse ι δ)

def SignalEffect.response? : SignalEffect ι δ κ → Option (JsonResponse ι δ)
  | .respond response => some response
  | _ => none

/-- A call of `handle`: its effects, and whether it panics after them. -/
structure Handling (ι δ κ : Type) where
  effects : List (SignalEffect ι δ κ) := []
  panics : Bool := false

namespace Handling

def after (effects : List (SignalEffect ι δ κ)) (h : Handling ι δ κ) : Handling ι δ κ :=
  { h with effects := effects ++ h.effects }

def responses (h : Handling ι δ κ) : List (JsonResponse ι δ) := h.effects.filterMap SignalEffect.response?

end Handling

/-- `request_id.clone().unwrap()`, then `response`; whether that can be sent is only logged. -/
def respond (id : Option ι) (result : Option δ) (error : Option String) : Handling ι δ κ :=
  match id with
  | some id => { effects := [.respond ⟨id, result, error⟩] }
  | none => { panics := true }

/-- The closure `response_error`. -/
def responseError (id : Option ι) (errorData : String) : Handling ι δ κ := respond id none (some errorData)

namespace JsonRequest

def handleJoin (request : JsonRequest ι δ κ) (peer : PeerAnswers δ) : Handling ι δ κ :=
  match request.params with
  | some (.join sid _ offer) =>
      match peer.join with
      | .error _ => (responseError request.id "join err").after [.onOffer, .onIceCandidate, .join sid ""]
      | .ok _ =>
          match peer.answer with
          | .ok answer =>
              (respond request.id (some answer) none).after [.onOffer, .onIceCandidate, .join sid "", .answer offer]
          | .error _ => { effects := [.onOffer, .onIceCandidate, .join sid "", .answer offer] }
  | _ => responseError request.id "join parameter is none"

def handleOffer (request : JsonRequest ι δ κ) (peer : PeerAnswers δ) : Handling ι δ κ :=
  match request.params with
  | some (.negotiation desc) =>
      match peer.answer with
      | .ok answer => (respond request.id (some answer) none).after [.answer desc]
      | .error err => (responseError request.id err).after [.answer desc]
  | _ => responseError request.id "negotiation is none"

def handleAnswer (request : JsonRequest ι δ κ) (peer : PeerAnswers δ) : Handling ι δ κ :=
  match request.params with
  | some (.negotiation desc) =>
      match peer.setRemoteDescription with
      | .ok _ => { effects := [.setRemoteDescription desc] }
      | .error err => (responseError request.id err).after [.setRemoteDescription desc]
  | _ => responseError request.id "negotiation is none"

def handleTrickle (request : JsonRequest ι δ κ) (peer : PeerAnswers δ) : Handling ι δ κ :=
  match request.params with
  | some (.trickle target candidate) =>
      match peer.trickle with
      | .ok _ => { effects := [.trickle candidate target] }
      | .error err => (responseError request.id err).after [.trickle candidate target]
  | _ => responseError request.id "trickle is none"

def handle (request : JsonRequest ι δ κ) (peer : PeerAnswers δ) : Handling ι δ κ :=
  match request.method with
  | "join" => request.handleJoin peer
  | "offer" => request.handleOffer peer
  | "answer" => request.handleAnswer peer
  | "trickle" => request.handleTrickle peer
  | _ => {}

/-- The messages of each method that are responded to. -/
def JoinResponds (request : JsonRequest ι δ κ) (peer : PeerAnswers δ) : Prop :=
  match request.params with
  | some (.join _ _ _) => peer.join.toBool = false ∨ peer.answer.toBool = true
  | _ => True

def AnswerResponds (request : JsonRequest ι δ κ) (peer : PeerAnswers δ) : Prop :=
  match request.params with
  | some (.negotiation _) => peer.setRemoteDescription.toBool = false
  | _ => True

def TrickleResponds (request : JsonRequest ι δ κ) (peer : PeerAnswers δ) : Prop :=
  match request.params with
  | some (.trickle _ _) => peer.trickle.toBool = false
  | _ => True

def Responds (request : JsonRequest ι δ κ) (peer : PeerAnswers δ) : Prop :=
  match request.method with
  | "join" => request.JoinResponds peer
  | "offer" => True
  | "answer" => request.AnswerResponds peer
  | "trickle" => request.TrickleResponds peer
  | _ => False

/-- What the path of a message comes to: one response under its id, a panic without one, or nothing. -/
inductive Settled (request : JsonRequest ι δ κ) (responds : Prop) (h : Handling ι δ κ) : Prop where
  | responded (will : responds) (response : JsonResponse ι δ) (id : request.id = some response.id)
      (returns : h.panics = false) (responses : h.responses = [response])
  | panicked (will : responds) (id : request.id = none) (panics : h.panics = true)
  | silent (never : ¬ responds) (returns : h.panics = false) (responses : h.responses = [])

theorem respond_settled (request : JsonRequest ι δ κ) (result : Option δ) (error : Option String)
    {effects : List (SignalEffect ι δ κ)} (calls : effects.filterMap SignalEffect.response? = []) {responds : Prop}
    (will : responds) : request.Settled responds ((respond request.id result error).after effects) := by
  cases found : request.id with
  | some id =>
      refine .responded will ⟨id, result, error⟩ found rfl ?_
      unfold respond Handling.after Handling.responses
      rw [List.filterMap_append, calls]
      rfl
  | none => exact .panicked will found rfl

theorem silent_settled {request : JsonRequest ι δ κ} {effects : List (SignalEffect ι δ κ)}
    (calls : effects.filterMap SignalEffect.response? = []) {responds : Prop} (never : ¬ responds) :
    request.Settled responds { effects } := .silent never rfl calls

variable (request : JsonRequest ι δ κ) (peer : PeerAnswers δ)

theorem responseError_settled (errorData : String) : request.Settled True (responseError request.id errorData) :=
  @respond_settled ι δ κ request none (some errorData) [] rfl True trivial

theorem handleJoin_settled : request.Settled (request.JoinResponds peer) (request.handleJoin peer) := by
  unfold handleJoin JoinResponds
  split
  · split
    next failed =>
        exact respond_settled request _ _ rfl (Or.inl (by rw [failed]; rfl))
    next joined =>
        split
        next answered => exact respond_settled request _ _ rfl (Or.inr (by rw [answered]; rfl))
        next failed =>
            refine silent_settled rfl ?_
            rw [joined, failed]
            exact not_or.mpr ⟨nofun, nofun⟩
  · exact request.responseError_settled _

theorem handleOffer_settled : request.Settled True (request.handleOffer peer) := by
  unfold handleOffer
  split
  · split
    · exact respond_settled request _ _ rfl trivial
    · exact respond_settled request _ _ rfl trivial
  · exact request.responseError_settled _

theorem handleAnswer_settled : request.Settled (request.AnswerResponds peer) (request.handleAnswer peer) := by
  unfold handleAnswer AnswerResponds
  split
  · split
    next applied =>
        refine silent_settled rfl ?_
        rw [applied]
        exact nofun
    next failed => exact respond_settled request _ _ rfl (by rw [failed]; rfl)
  · exact request.responseError_settled _

theorem handleTrickle_settled : request.Settled (request.TrickleResponds peer) (request.handleTrickle peer) := by
  unfold handleTrickle TrickleResponds
  split
  · split
    next added =>
        refine silent_settled rfl ?_
        rw [added]
        exact nofun
    next failed => exact respond_settled request _ _ rfl (by rw [failed]; rfl)
  · exact request.responseError_settled _

theorem handle_settled : request.Settled (request.Responds peer) (request.handle peer) := by
  unfold handle Responds
  split
  · exact request.handleJoin_settled peer
  · exact request.handleOffer_settled peer
  · exact request.handleAnswer_settled peer
  · exact request.handleTrickle_settled peer
  · exact silent_settled rfl not_false

end JsonRequest

/-- A message with the ends of the peer's operations it meets. -/
structure SignalMessage (ι δ κ : Type) where
  request : JsonRequest ι δ κ
  peer : PeerAnswers δ

namespace SignalMessage

/-- The responses so far; a message whose handling panics is the last. -/
def serve (sent : List (JsonResponse ι δ)) (message : SignalMessage ι δ κ) : Option (List (JsonResponse ι δ)) :=
  let handling := message.request.handle message.peer
  if handling.panics then none else some (sent ++ handling.responses)

/-- The message has an id when it is responded to, and only then. -/
def Fits (message : SignalMessage ι δ κ) : Prop :=
  message.request.id.isSome = true ↔ message.request.Responds message.peer

variable {sent : List (JsonResponse ι δ)} {message : SignalMessage ι δ κ}

/-- A message is served with one response or none; without an id it is never responded to. -/
theorem serve_cases :
    (∃ response, message.request.id = some response.id ∧ message.request.Responds message.peer ∧
        serve sent message = some (sent ++ [response])) ∨
      (message.request.id = none ∧ message.request.Responds message.peer ∧ serve sent message = none) ∨
      (¬ message.request.Responds message.peer ∧ serve sent message = some sent) := by
  unfold serve
  cases message.request.handle_settled message.peer with
  | responded will response id returns responses =>
      refine Or.inl ⟨response, id, will, ?_⟩
      simp only [returns, responses, Bool.false_eq_true, if_false]
  | panicked will id panics => exact Or.inr (Or.inl ⟨id, will, if_pos panics⟩)
  | silent never returns responses =>
      refine Or.inr (Or.inr ⟨never, ?_⟩)
      simp only [returns, responses, Bool.false_eq_true, if_false, List.append_nil]

theorem run_bound {messages : List (SignalMessage ι δ κ)} {log : List (JsonResponse ι δ)}
    (served : run serve sent messages = some log) :
    log.length ≤ sent.length + (messages.filterMap fun m => m.request.id).length := by
  induction messages generalizing sent with
  | nil =>
      cases served
      exact Nat.le_add_right _ _
  | cons message rest ih =>
      obtain ⟨next, first, later⟩ := run_cons_eq_some.mp served
      have bound := ih later
      rw [List.filterMap_cons]
      rcases @serve_cases _ _ _ sent message with ⟨response, id, -, one⟩ | ⟨-, -, none⟩ | ⟨-, nothing⟩
      · cases first.symm.trans one
        rw [List.length_append] at bound
        simp only [id, List.length_cons, List.length_nil] at bound ⊢
        omega
      · cases first.symm.trans none
      · cases first.symm.trans nothing
        cases message.request.id with
        | none => exact bound
        | some id =>
            simp only [List.length_cons]
            omega

/-- A run answers exactly the ids it is given when each message fits. -/
theorem run_ids_iff {messages : List (SignalMessage ι δ κ)} :
    (∃ log, run serve sent messages = some log ∧
        log.map JsonResponse.id = sent.map JsonResponse.id ++ messages.filterMap fun m => m.request.id) ↔
      ∀ m ∈ messages, m.Fits := by
  induction messages generalizing sent with
  | nil => exact iff_of_true ⟨sent, rfl, (List.append_nil _).symm⟩ fun m mem => absurd mem List.not_mem_nil
  | cons message rest ih =>
      have head : message.Fits ↔ (message.request.id.isSome = true ↔ message.request.Responds message.peer) := Iff.rfl
      rw [List.forall_mem_cons, List.filterMap_cons, head]
      rcases @serve_cases _ _ _ sent message with ⟨response, id, will, one⟩ | ⟨id, will, none⟩ | ⟨never, nothing⟩
      · simp only [run, one, id, Option.bind_some, Option.isSome_some, will, true_and]
        rw [← @ih (sent ++ [response])]
        simp only [List.map_append, List.map_cons, List.map_nil, List.append_assoc, List.singleton_append]
      · simp only [run, none, Option.bind_none, id, Option.isSome_none, will, Bool.false_eq_true, iff_true, false_and,
          reduceCtorEq, exists_false]
      · cases id : message.request.id with
        | none =>
            simp only [run, nothing, Option.bind_some, Option.isSome_none, never, Bool.false_eq_true, true_and]
            exact ih
        | some own =>
            simp only [Option.isSome_some, never, iff_false, not_true_eq_false, false_and, iff_false]
            rintro ⟨log, served, ids⟩
            simp only [run, nothing, Option.bind_some] at served
            have bound := run_bound served
            have length := congrArg List.length ids
            simp only [List.length_map, List.length_append, List.length_cons] at length
            omega

/-- A client's messages are all served, and those with an id get one response each and the others none,
exactly when the responding messages among them are the ones with an id. -/
theorem run_disciplined_iff (messages : List (SignalMessage ι δ κ)) :
    (∃ log, run serve [] messages = some log ∧
        log.map JsonResponse.id = messages.filterMap fun m => m.request.id) ↔ ∀ m ∈ messages, m.Fits := by
  have ids := @run_ids_iff ι δ κ [] messages
  rwa [List.map_nil, List.nil_append] at ids

/-- An offer without an id panics; an answer with one, which is applied, gets no response. -/
theorem offer_without_id_panics :
    ((⟨"offer", some (.negotiation 7), none⟩ : JsonRequest Nat Nat Nat).handle
        ⟨.ok (), .ok 8, .ok (), .ok ()⟩).panics = true ∧
      run serve [] [(⟨⟨"answer", some (.negotiation 7), some 1⟩, ⟨.ok (), .ok 8, .ok (), .ok ()⟩⟩ :
        SignalMessage Nat Nat Nat)] = some [] ∧
      ¬ ∃ log, run serve [] [(⟨⟨"answer", some (.negotiation 7), some 1⟩, ⟨.ok (), .ok 8, .ok (), .ok ()⟩⟩ :
        SignalMessage Nat Nat Nat)] = some log ∧ log.map JsonResponse.id = [1] := by
  refine ⟨rfl, rfl, ?_⟩
  rintro ⟨log, served, ids⟩
  cases served
  cases ids

end SignalMessage

end Rsfu

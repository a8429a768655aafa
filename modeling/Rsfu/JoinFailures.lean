import Rsfu.EarlyReturn
import Rsfu.SessionRegistry

/-! A call of `join` on its own, with every transport it makes. The peer is in its session
before the first of them is made, and a failure takes nothing back. -/
namespace Rsfu
open EarlyReturn

structure JoinConfig where
  noPublish : Bool := false
  noSubscribe : Bool := false
  noAutoSubscribe : Bool := false
  deriving DecidableEq, Repr

inductive JoinError where
  | errTransportExists
  | subscriber
  | dataChannel
  | publisher
  deriving DecidableEq, Repr

/-- A `Subscriber` with the labels of its `channels`. -/
structure JoinedSubscriber where
  id : String
  noAutoSubscribe : Bool
  channels : List String := []
  deriving DecidableEq, Repr

/-- Which transports can be made: the subscriber, each of the middleware data channels, the publisher. -/
structure Transports where
  subscriber : Bool := true
  dataChannel : Nat → Bool := fun _ => true
  publisher : Bool := true

/-- The sessions, the labels of `SFU.data_channels`, and the transports of each peer; a
publisher is known by its id. -/
structure JoinState where
  registry : SessionRegistry := {}
  dataChannels : List String := []
  subscribers : Nat → Option JoinedSubscriber := fun _ => none
  publishers : Nat → Option String := fun _ => none

namespace JoinState

/-- `get_session`: the session registered under the id, or a new one. -/
def getSession (g : JoinState) (sid : String) : JoinState × Nat :=
  match g.registry.sessions sid with
  | some i => (g, i)
  | none => ({ g with registry := g.registry.newSession sid }, g.registry.created.length)

def setPeer (g : JoinState) (p : Nat) (peer : RegisteredPeer) : JoinState :=
  { g with registry := g.registry.setPeer p peer }

def newSubscriber (p : Nat) (cfg : JoinConfig) (t : Transports) (g : JoinState) : Outcome JoinState JoinError :=
  if t.subscriber then
    let subscriber := { id := (g.registry.peers p).id, noAutoSubscribe := cfg.noAutoSubscribe }
    { state := { g with subscribers := Function.update g.subscribers p (some subscriber) } }
  else { state := g, error := some .subscriber }

/-- One turn of the loop over the middleware data channels. -/
def addDataChannel (p : Nat) (t : Transports) (i : Nat) (label : String) (g : JoinState) :
    Outcome JoinState JoinError :=
  match g.subscribers p with
  | none => { state := g }
  | some sub =>
      if t.dataChannel i then
        let sub := { sub with channels := sub.channels.filter (· ≠ label) ++ [label] }
        { state := { g with subscribers := Function.update g.subscribers p (some sub) } }
      else { state := g, error := some .dataChannel }

def newPublisher (p : Nat) (t : Transports) (g : JoinState) : Outcome JoinState JoinError :=
  if t.publisher then
    { state := { g with publishers := Function.update g.publishers p (some (g.registry.peers p).id) } }
  else { state := g, error := some .publisher }

def addPeer (p i : Nat) (sid : String) (g : JoinState) : JoinState :=
  match g.registry.created[i]? with
  | some s => { g with registry := g.registry.addPeer i s (g.registry.peers p).id p sid }
  | none => g

/-- The middle of `join`: every await in it that may fail. -/
def makeTransports (p : Nat) (cfg : JoinConfig) (t : Transports) (g : JoinState) : Outcome JoinState JoinError :=
  (whenever (!cfg.noSubscribe) (newSubscriber p cfg t) g).andThen
    (whenever (!cfg.noPublish) fun g =>
      (whenever (!cfg.noSubscribe) (fun g => each (addDataChannel p t) 0 g.dataChannels g) g).andThen
        (newPublisher p t))

/-- What `join` does before that: the peer has its id and its session. -/
def enter (g : JoinState) (p : Nat) (sid uuid : String) : JoinState × Nat :=
  let (found, i) := (g.setPeer p { g.registry.peers p with id := uuid }).getSession sid
  (found.setPeer p { found.registry.peers p with session := some i }, i)

/-- `join`; `newV4` is the id made for a client that gives none. What `subscribe` does at the end is left out. -/
def join (g : JoinState) (p : Nat) (sid uid newV4 : String) (cfg : JoinConfig) (t : Transports) :
    Outcome JoinState JoinError :=
  match (g.registry.peers p).session with
  | some _ => { state := g, error := some .errTransportExists }
  | none =>
      let (entered, i) := g.enter p sid (if uid = "" then newV4 else uid)
      (makeTransports p cfg t entered).andThen fun g => { state := g.addPeer p i sid }

/-- No transport that the configuration asks for fails. -/
def Works (dataChannels : List String) (cfg : JoinConfig) (t : Transports) : Prop :=
  (cfg.noSubscribe = false → t.subscriber = true) ∧
    (cfg.noPublish = false →
      (cfg.noSubscribe = false → ∀ i < dataChannels.length, t.dataChannel i = true) ∧ t.publisher = true)

/-- After a failure the peer is as it was, no empty session was left behind, and any later
join with working transports goes through. -/
def Undone (g : JoinState) (p : Nat) (r : Outcome JoinState JoinError) : Prop :=
  r.error ≠ none →
    ((r.state.registry.peers p).session = (g.registry.peers p).session ∧ r.state.subscribers p = g.subscribers p ∧
        r.state.publishers p = g.publishers p) ∧
      (∀ sid i s, r.state.registry.sessions sid = some i → r.state.registry.created[i]? = some s →
        g.registry.sessions sid = some i ∨ s.peerCount ≠ 0) ∧
      ∀ sid uid newV4 cfg t, Works r.state.dataChannels cfg t → (r.state.join p sid uid newV4 cfg t).error = none

theorem newSubscriber_error_iff (p : Nat) (cfg : JoinConfig) (t : Transports) (g : JoinState) :
    (newSubscriber p cfg t g).error = none ↔ t.subscriber = true := by
  unfold newSubscriber
  cases t.subscriber with
  | true => exact iff_of_true rfl rfl
  | false => exact iff_of_false nofun nofun

theorem newPublisher_error_iff (p : Nat) (t : Transports) (g : JoinState) :
    (newPublisher p t g).error = none ↔ t.publisher = true := by
  unfold newPublisher
  cases t.publisher with
  | true => exact iff_of_true rfl rfl
  | false => exact iff_of_false nofun nofun

theorem addDataChannel_error_iff {p : Nat} {t : Transports} {i : Nat} {label : String} {g : JoinState}
    (made : (g.subscribers p).isSome = true) :
    (addDataChannel p t i label g).error = none ↔ t.dataChannel i = true := by
  obtain ⟨sub, found⟩ := Option.isSome_iff_exists.mp made
  unfold addDataChannel
  rw [found]
  cases t.dataChannel i with
  | true => exact iff_of_true rfl rfl
  | false => exact iff_of_false nofun nofun

/-- The transports change nothing of the sessions. -/
def SameSessions (g g' : JoinState) : Prop := g'.registry = g.registry ∧ g'.dataChannels = g.dataChannels

theorem newSubscriber_same {p : Nat} {cfg : JoinConfig} {t : Transports} {g g' : JoinState}
    (same : SameSessions g g') : SameSessions g (newSubscriber p cfg t g').state := by
  unfold newSubscriber
  split <;> exact same

theorem newPublisher_same {p : Nat} {t : Transports} {g g' : JoinState} (same : SameSessions g g') :
    SameSessions g (newPublisher p t g').state := by
  unfold newPublisher
  split <;> exact same

theorem addDataChannel_same {p : Nat} {t : Transports} {i : Nat} {label : String} {g g' : JoinState}
    (same : SameSessions g g') : SameSessions g (addDataChannel p t i label g').state := by
  unfold addDataChannel
  split
  · exact same
  · split <;> exact same

theorem addDataChannel_subscribed {p : Nat} {t : Transports} {i : Nat} {label : String} {g : JoinState}
    (made : (g.subscribers p).isSome = true) :
    ((addDataChannel p t i label g).state.subscribers p).isSome = true := by
  unfold addDataChannel
  split
  · exact made
  · split
    · dsimp only
      rw [Function.update_self]
      rfl
    · exact made

theorem makeTransports_same (p : Nat) (cfg : JoinConfig) (t : Transports) (g : JoinState) :
    SameSessions g (makeTransports p cfg t g).state := by
  have start : SameSessions g g := ⟨rfl, rfl⟩
  refine Outcome.andThen_keeps (whenever_keeps start newSubscriber_same) fun g' same => ?_
  refine whenever_keeps same fun _ => Outcome.andThen_keeps ?_ fun _ => newPublisher_same
  exact whenever_keeps same fun _ => each_keeps (fun _ _ _ => addDataChannel_same) _ same

theorem dataChannels_error_iff {p : Nat} {t : Transports} {g : JoinState} (made : (g.subscribers p).isSome = true) :
    (each (addDataChannel p t) 0 g.dataChannels g).error = none ↔
      ∀ i < g.dataChannels.length, t.dataChannel i = true := by
  rw [each_error_iff (fun g => (g.subscribers p).isSome = true) (fun i _ => t.dataChannel i = true)
    (fun _ _ _ => addDataChannel_subscribed) (fun _ _ _ => addDataChannel_error_iff) _ made]
  constructor
  · intro all i bound
    exact Nat.zero_add i ▸ all i _ (List.getElem?_eq_getElem bound)
  · intro all j _ found
    rw [Nat.zero_add]
    exact all j (List.getElem?_eq_some_iff.mp found).1

theorem newSubscriber_made {p : Nat} {cfg : JoinConfig} {t : Transports} {g : JoinState}
    (works : t.subscriber = true) : ((newSubscriber p cfg t g).state.subscribers p).isSome = true := by
  unfold newSubscriber
  rw [if_pos works]
  dsimp only
  rw [Function.update_self]
  rfl

theorem makeTransports_error_iff (p : Nat) (cfg : JoinConfig) (t : Transports) (g : JoinState) :
    (makeTransports p cfg t g).error = none ↔ Works g.dataChannels cfg t := by
  unfold makeTransports Works
  cases cfg.noSubscribe with
  | true =>
      simp only [Outcome.andThen_error_iff, whenever_error_iff, newPublisher_error_iff, Bool.not_eq_true',
        Bool.true_eq_false, false_implies, true_and]
  | false =>
      simp only [Outcome.andThen_error_iff, whenever_error_iff, newPublisher_error_iff, newSubscriber_error_iff,
        Bool.not_eq_true', true_implies]
      refine and_congr_right fun works => forall_congr' fun _ => and_congr_left fun _ => ?_
      have same : (newSubscriber p cfg t g).state.dataChannels = g.dataChannels := (newSubscriber_same ⟨rfl, rfl⟩).2
      rw [← same]
      exact dataChannels_error_iff (newSubscriber_made works)

theorem enter_session (g : JoinState) (p : Nat) (sid uuid : String) :
    ((g.enter p sid uuid).1.registry.peers p).session = some (g.enter p sid uuid).2 := by
  simp only [enter, setPeer, SessionRegistry.setPeer, Function.update_self]

theorem enter_dataChannels (g : JoinState) (p : Nat) (sid uuid : String) :
    (g.enter p sid uuid).1.dataChannels = g.dataChannels := by
  unfold enter setPeer getSession
  dsimp only
  split <;> rfl

theorem addPeer_peers (p i : Nat) (sid : String) (g : JoinState) :
    (g.addPeer p i sid).registry.peers = g.registry.peers := by
  unfold addPeer
  split <;> rfl

variable {g : JoinState} {p : Nat} {sid uid newV4 : String} {cfg : JoinConfig} {t : Transports}

theorem join_new (new : (g.registry.peers p).session = none) :
    g.join p sid uid newV4 cfg t =
      (makeTransports p cfg t (g.enter p sid (if uid = "" then newV4 else uid)).1).andThen fun g' =>
        { state := g'.addPeer p (g.enter p sid (if uid = "" then newV4 else uid)).2 sid } := by
  unfold join
  rw [new]

theorem join_error_iff (new : (g.registry.peers p).session = none) :
    (g.join p sid uid newV4 cfg t).error = none ↔ Works g.dataChannels cfg t := by
  rw [join_new new, Outcome.andThen_error_iff, makeTransports_error_iff, enter_dataChannels]
  exact and_iff_left rfl

/-- However the call ends, the peer is in a session. -/
theorem join_session (new : (g.registry.peers p).session = none) :
    ((g.join p sid uid newV4 cfg t).state.registry.peers p).session.isSome = true := by
  rw [join_new new]
  refine @Outcome.andThen_keeps JoinState _ (fun g' => (g'.registry.peers p).session.isSome = true) _ _ ?_
    fun g' entered => ?_
  · rw [(makeTransports_same p cfg t _).1, enter_session]
    rfl
  · rw [addPeer_peers]
    exact entered

/-- A `join` that fails is undone exactly when it does not fail. -/
theorem join_undone_iff (new : (g.registry.peers p).session = none) :
    Undone g p (g.join p sid uid newV4 cfg t) ↔ Works g.dataChannels cfg t := by
  constructor
  · intro undone
    rw [← join_error_iff new]
    by_contra failed
    have left := (undone failed).1.1
    have entered := @join_session g p sid uid newV4 cfg t new
    rw [left, new] at entered
    cases entered
  · intro works failed
    exact absurd ((join_error_iff new).mpr works) failed

/-- The subscriber fails: the peer stays in the session made for it, which is empty, and cannot join again. -/
theorem failed_join_keeps_session :
    (join {} 0 "room" "ann" "" {} { subscriber := false }).error = some .subscriber ∧
      ((join {} 0 "room" "ann" "" {} { subscriber := false }).state.registry.peers 0).session = some 0 ∧
      (join {} 0 "room" "ann" "" {} { subscriber := false }).state.registry.sessions "room" = some 0 ∧
      ((join {} 0 "room" "ann" "" {} { subscriber := false }).state.join 0 "room" "ann" "" {} {}).error =
        some .errTransportExists ∧
      ¬ Undone {} 0 (join {} 0 "room" "ann" "" {} { subscriber := false }) := by
  refine ⟨rfl, rfl, rfl, rfl, fun undone => ?_⟩
  have left := (undone nofun).1.1
  cases left

/-- A server with two middleware channels and one peer in its room. -/
def channelRoom : JoinState := (join { dataChannels := ["chat", "files"] } 0 "room" "ann" "" {} {}).state

/-- A second peer joins, whose second channel fails. -/
theorem join_undone_iff_channels :
    (channelRoom.registry.peers 1).session = none ∧ channelRoom.subscribers 0 ≠ none ∧
      (Undone channelRoom 1 (channelRoom.join 1 "room" "bob" "" { noAutoSubscribe := true }
          { dataChannel := fun i => i == 0 }) ↔
        Works ["chat", "files"] { noAutoSubscribe := true } { dataChannel := fun i => i == 0 }) :=
  ⟨rfl, nofun, join_undone_iff (g := channelRoom) rfl⟩

end JoinState

end Rsfu

import Rsfu.Bucket
import Mathlib.Data.List.Basic

/-! Data channels of a session. Channels are named by the order they were created
in. A message handler captures the list of channels it will send to when it is set. -/
namespace Rsfu

/-- What does not change of a peer: its id, and whether it has a subscriber. -/
structure SessionClient where
  id : String
  subscribes : Bool := true

inductive ReadyState where
  | connecting
  | «open»
  | closed
  deriving DecidableEq, Repr

/-- The peers of a session, what their subscribers keep under each label, and which channels
are open. -/
structure SessionView where
  peers : List Nat
  subscriberChannels : Nat → String → Option Nat
  isOpen : Nat → Bool

/-- A channel between the session and the client of `holder`. `setIn` is a record that the
code does not keep: the session as it was when the handler was set. -/
structure SessionChannel where
  label : String
  holder : Nat
  readyState : ReadyState := .connecting
  onMessage : Option (List Nat) := none
  setIn : Option SessionView := none

/-- The peers of a session, the labels it fans out, and the `channels` of each subscriber. -/
structure SessionChannels where
  peers : List Nat := []
  fanoutDataChannels : List String := []
  channels : List SessionChannel := []
  subscriberChannels : Nat → String → Option Nat := fun _ _ => none

namespace SessionChannels
variable (clients : Nat → SessionClient)

def isOpen (g : SessionChannels) (dc : Nat) : Bool :=
  g.channels[dc]?.any fun channel => channel.readyState = .open

/-- `add_peer`: the map is keyed by id, so a peer of the same id is replaced. -/
def addPeer (g : SessionChannels) (peer : Nat) : SessionChannels :=
  { g with peers := g.peers.filter (fun q => (clients q).id ≠ (clients peer).id) ++ [peer] }

def removePeer (g : SessionChannels) (peer : Nat) : SessionChannels :=
  { g with peers := g.peers.filter fun q => (clients q).id ≠ (clients peer).id }

/-- Every peer but `peerId` gives its channel of the label when that is open. -/
def getDataChannels (g : SessionChannels) (peerId label : String) : List Nat :=
  (g.peers.filter fun q => (clients q).id ≠ peerId).filterMap fun q =>
    if (clients q).subscribes then (g.subscriberChannels q label).filter g.isOpen else none

def view (g : SessionChannels) : SessionView := ⟨g.peers, g.subscriberChannels, g.isOpen⟩

def onMessage (g : SessionChannels) (dc : Nat) (dataChannels : List Nat) : SessionChannels :=
  { g with
    channels := g.channels.modify dc fun channel =>
      { channel with onMessage := some dataChannels, setIn := some g.view } }

/-- `register_data_channel` of a subscriber. -/
def registerDataChannel (g : SessionChannels) (peer : Nat) (label : String) (dc : Nat) : SessionChannels :=
  { g with subscriberChannels := fun q l => if q = peer ∧ l = label then some dc else g.subscriberChannels q l }

/-- A channel made by a peer connection, before it opens. -/
def createDataChannel (g : SessionChannels) (peer : Nat) (label : String) : SessionChannels :=
  { g with channels := g.channels ++ [{ label, holder := peer }] }

/-- `add_data_channel_2` of a subscriber whose peer connection may refuse a new channel. -/
def addDataChannel2 (g : SessionChannels) (refuses : Nat → Bool) (peer : Nat) (label : String) :
    SessionChannels × Option Nat :=
  match g.subscriberChannels peer label with
  | some dc => (g, some dc)
  | none =>
      if refuses peer then (g, none)
      else ((g.createDataChannel peer label).registerDataChannel peer label g.channels.length, some g.channels.length)

/-- One peer of the loop that tells the others about a new label. -/
def offerDataChannel (refuses : Nat → Bool) (label : String) (dataChannels : List Nat) (g : SessionChannels)
    (peer : Nat) : SessionChannels :=
  match g.addDataChannel2 refuses peer label with
  | (g, some dc) => g.onMessage dc dataChannels
  | (g, none) => g

/-- `add_data_channel` on a channel its owner has just made. With a new label and no
peer of the owner's id, `get_peer` panics after the label was pushed. -/
def addDataChannel (g : SessionChannels) (refuses : Nat → Bool) (owner : Nat) (label : String) : SessionChannels :=
  let dc := g.channels.length
  let g := g.createDataChannel owner label
  let dataChannels := g.getDataChannels clients (clients owner).id label
  if label ∈ g.fanoutDataChannels then g.onMessage dc dataChannels
  else
    let g := { g with fanoutDataChannels := g.fanoutDataChannels ++ [label] }
    match g.peers.find? fun q => (clients q).id = (clients owner).id with
    | none => g
    | some peerOwner =>
        let g := if (clients peerOwner).subscribes then g.registerDataChannel peerOwner label dc else g
        (g.peers.filter fun q => (clients q).id ≠ (clients owner).id ∧ (clients q).subscribes).foldl
          (offerDataChannel refuses label dataChannels) (g.onMessage dc dataChannels)

/-- One label of the loop of `subscribe`. -/
def subscribeLabel (refuses : Nat → Bool) (peer : Nat) (g : SessionChannels) (label : String) : SessionChannels :=
  match g.addDataChannel2 refuses peer label with
  | (g, some dc) => g.onMessage dc (g.getDataChannels clients (clients peer).id label)
  | (g, none) => g

def subscribe (g : SessionChannels) (refuses : Nat → Bool) (peer : Nat) : SessionChannels :=
  if (clients peer).subscribes then g.fanoutDataChannels.foldl (subscribeLabel clients refuses peer) g else g

def setReadyState (g : SessionChannels) (dc : Nat) (readyState : ReadyState) : SessionChannels :=
  { g with channels := g.channels.modify dc fun channel => { channel with readyState } }

/-- `fanout_message`: the channels it sends on. Data that is not UTF-8 panics at the
first channel, binary or not; a send on a channel that is not open only logs. -/
def fanoutMessage (g : SessionChannels) (dataChannels : List Nat) (data : Bytes) : List Nat :=
  if (ByteArray.mk data.toArray).IsValidUTF8 then dataChannels.filter g.isOpen else []

/-- The channels the handler of `dc` captured. -/
def captured (g : SessionChannels) (dc : Nat) : List Nat := (g.channels[dc]?.bind SessionChannel.onMessage).getD []

/-- What a message arriving on `dc` is sent on. -/
def message (g : SessionChannels) (dc : Nat) (data : Bytes) : List Nat := g.fanoutMessage (g.captured dc) data

end SessionChannels

end Rsfu

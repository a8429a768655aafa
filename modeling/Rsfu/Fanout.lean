import Rsfu.GuardedRun
import Rsfu.SessionChannels
import Rsfu.TaskTable
import Mathlib.Data.List.Nodup

/-! Whom a message on a session data channel reaches. A handler sends to the
channels it captured when it was set, so it reaches a peer exactly when that
peer's channel was open in the session by then. -/
namespace Rsfu
open GuardedRun TaskTable

/-- The session has another peer whose subscriber keeps the channel, open, under the label. -/
def SessionView.Gives (clients : Nat → SessionClient) (v : SessionView) (peerId label : String) (d : Nat) : Prop :=
  ∃ q ∈ v.peers, (clients q).id ≠ peerId ∧ (clients q).subscribes ∧ v.subscriberChannels q label = some d ∧ v.isOpen d

/-- The channels a handler sends to. -/
def SessionChannel.captured (channel : SessionChannel) : List Nat := channel.onMessage.getD []

namespace SessionChannels
variable {clients : Nat → SessionClient}

/-- The channel is one of its peer's under the label. -/
def Belongs (clients : Nat → SessionClient) (g : SessionChannels) (dc peer : Nat) (label : String) : Prop :=
  ∃ channel, g.channels[dc]? = some channel ∧ channel.label = label ∧ (clients channel.holder).id = (clients peer).id

/-- A handler captured, each once, what the session gave when it was set, and subscribers
still keep what they kept then. -/
structure Fits (clients : Nat → SessionClient) (g : SessionChannels) (channel : SessionChannel) : Prop where
  nodup : channel.captured.Nodup
  given : ∀ d, d ∈ channel.captured ↔
    ∃ v ∈ channel.setIn, v.Gives clients (clients channel.holder).id channel.label d
  distinct : ∀ v ∈ channel.setIn, v.peers.Pairwise fun q r => (clients q).id ≠ (clients r).id
  kept : ∀ v ∈ channel.setIn, ∀ q label d, v.subscriberChannels q label = some d →
    g.subscriberChannels q label = some d

/-- Peers have distinct ids, subscribers keep channels of their own under labels that are
fanned out, no channel is kept twice, and what handlers captured fits. -/
structure Wired (clients : Nat → SessionClient) (g : SessionChannels) : Prop where
  distinct : g.peers.Pairwise fun q r => (clients q).id ≠ (clients r).id
  belongs : ∀ q label d, g.subscriberChannels q label = some d → g.Belongs clients d q label
  labelled : ∀ q label d, g.subscriberChannels q label = some d → label ∈ g.fanoutDataChannels
  one : ∀ q r label label' d, g.subscriberChannels q label = some d → g.subscriberChannels r label' = some d → q = r
  fits : ∀ (c : Nat) (channel : SessionChannel), g.channels[c]? = some channel → g.Fits clients channel

theorem getDataChannels_mem {g : SessionChannels} {peerId label : String} {d : Nat} :
    d ∈ g.getDataChannels clients peerId label ↔ g.view.Gives clients peerId label d := by
  unfold getDataChannels SessionView.Gives
  simp only [List.mem_filterMap, List.mem_filter, decide_eq_true_eq, and_assoc]
  refine exists_congr fun q => and_congr_right fun _ => and_congr_right fun _ => ?_
  cases (clients q).subscribes with
  | true => simp only [if_true, true_and, Option.filter_eq_some_iff, view]
  | false => simp only [Bool.false_eq_true, if_false, false_and, reduceCtorEq]

theorem Wired.getDataChannels_nodup {g : SessionChannels} (wired : g.Wired clients) (peerId label : String) :
    (g.getDataChannels clients peerId label).Nodup := by
  unfold getDataChannels
  have peers : g.peers.Nodup :=
    wired.distinct.imp fun differ same => differ (congrArg (fun q => (clients q).id) same)
  have keeps {q d : Nat} (h : d ∈ if (clients q).subscribes then (g.subscriberChannels q label).filter g.isOpen
      else none) : g.subscriberChannels q label = some d := by
    split at h
    · exact (Option.filter_eq_some_iff.mp h).1
    · cases h
  exact List.Nodup.filterMap (fun q r d left right => wired.one q r _ _ d (keeps left) (keeps right)) (peers.filter _)

/-- What subscribers keep is kept on. -/
theorem Fits.mono {g g' : SessionChannels} {channel : SessionChannel} (fits : g.Fits clients channel)
    (keeps : ∀ q label d, g.subscriberChannels q label = some d → g'.subscriberChannels q label = some d) :
    g'.Fits clients channel :=
  ⟨fits.nodup, fits.given, fits.distinct,
    fun v mem q label d kept => keeps q label d (fits.kept v mem q label d kept)⟩

theorem fits_new (g : SessionChannels) (label : String) (peer : Nat) :
    g.Fits clients { label, holder := peer } where
  nodup := List.nodup_nil
  given d := by
    refine iff_of_false List.not_mem_nil ?_
    rintro ⟨v, mem, -⟩
    cases mem
  distinct v mem := by cases mem
  kept v mem := by cases mem

theorem Wired.createDataChannel {g : SessionChannels} (wired : g.Wired clients) (peer : Nat) (label : String) :
    (g.createDataChannel peer label).Wired clients where
  distinct := wired.distinct
  belongs q l d kept := by
    obtain ⟨channel, found, rest⟩ := wired.belongs q l d kept
    exact ⟨channel, lookup_append_old found, rest⟩
  labelled := wired.labelled
  one := wired.one
  fits c channel found := by
    rcases lookup_append found with old | ⟨-, rfl⟩
    · exact (wired.fits c channel old).mono fun _ _ _ => id
    · exact fits_new _ label peer

theorem lookup_onMessage {g : SessionChannels} {dc c : Nat} {dataChannels : List Nat} {channel : SessionChannel}
    (found : (g.onMessage dc dataChannels).channels[c]? = some channel) :
    ∃ before, g.channels[c]? = some before ∧
      channel = if dc = c then { before with onMessage := some dataChannels, setIn := some g.view } else before := by
  unfold onMessage at found
  rw [List.getElem?_modify] at found
  obtain ⟨before, old, rfl⟩ := Option.map_eq_some_iff.mp found
  exact ⟨before, old, rfl⟩

theorem Belongs.onMessage {g : SessionChannels} {d q c : Nat} {label : String} {dataChannels : List Nat}
    (h : g.Belongs clients d q label) : (g.onMessage c dataChannels).Belongs clients d q label := by
  obtain ⟨channel, found, named, held⟩ := h
  refine ⟨_, (List.getElem?_modify _ _ _ _).trans (congrArg _ found), ?_, ?_⟩
  · dsimp only
    split <;> exact named
  · dsimp only
    split <;> exact held

/-- A handler is set with what the session gives. -/
theorem Wired.onMessage {g : SessionChannels} {dc : Nat} {dataChannels : List Nat} (wired : g.Wired clients)
    (nodup : dataChannels.Nodup) (given : ∀ channel, g.channels[dc]? = some channel →
      ∀ d, d ∈ dataChannels ↔ g.view.Gives clients (clients channel.holder).id channel.label d) :
    (g.onMessage dc dataChannels).Wired clients where
  distinct := wired.distinct
  belongs q label d kept := (wired.belongs q label d kept).onMessage
  labelled := wired.labelled
  one := wired.one
  fits c channel found := by
    obtain ⟨before, old, rfl⟩ := lookup_onMessage found
    split
    next same =>
        subst same
        exact {
          nodup
          given := fun d => by
            refine (given before old d).trans ⟨fun gives => ⟨_, rfl, gives⟩, ?_⟩
            rintro ⟨v, mem, gives⟩
            cases mem
            exact gives
          distinct := fun v mem => by
            cases mem
            exact wired.distinct
          kept := fun v mem q label d kept => by
            cases mem
            exact kept }
    · exact (wired.fits c before old).mono fun _ _ _ => id

/-- A subscriber that keeps nothing under a label may keep a new channel of its peer. -/
theorem Wired.registerDataChannel {g : SessionChannels} {peer dc : Nat} {label : String} (wired : g.Wired clients)
    (fanned : label ∈ g.fanoutDataChannels) (free : g.subscriberChannels peer label = none)
    (belongs : g.Belongs clients dc peer label) (unkept : ∀ q l, g.subscriberChannels q l ≠ some dc) :
    (g.registerDataChannel peer label dc).Wired clients := by
  have kept {q d : Nat} {l : String} (h : (g.registerDataChannel peer label dc).subscriberChannels q l = some d) :
      (q = peer ∧ l = label ∧ d = dc) ∨ g.subscriberChannels q l = some d := by
    change (if q = peer ∧ l = label then some dc else g.subscriberChannels q l) = some d at h
    split at h
    next here => exact Or.inl ⟨here.1, here.2, (Option.some.inj h).symm⟩
    · exact Or.inr h
  exact {
    distinct := wired.distinct
    belongs := fun q l d h => by
      rcases kept h with ⟨rfl, rfl, rfl⟩ | old
      · exact belongs
      · exact wired.belongs q l d old
    labelled := fun q l d h => by
      rcases kept h with ⟨-, rfl, -⟩ | old
      · exact fanned
      · exact wired.labelled q l d old
    one := fun q r l l' d left right => by
      rcases kept left with ⟨rfl, rfl, rfl⟩ | old <;> rcases kept right with ⟨rfl, rfl, new⟩ | old'
      · rfl
      · exact absurd old' (unkept r l')
      · exact absurd (new ▸ old) (unkept q l)
      · exact wired.one q r l l' d old old'
    fits := fun c channel found => by
      refine (wired.fits c channel found).mono fun q l d old => (if_neg fun here => ?_).trans old
      rw [here.1, here.2, free] at old
      cases old }

theorem Wired.unkept {g : SessionChannels} (wired : g.Wired clients) (q : Nat) (label : String) :
    g.subscriberChannels q label ≠ some g.channels.length := by
  intro kept
  obtain ⟨channel, found, -⟩ := wired.belongs q label _ kept
  exact Nat.lt_irrefl _ (List.getElem?_eq_some_iff.mp found).1

theorem createDataChannel_belongs (clients : Nat → SessionClient) (g : SessionChannels) (peer : Nat)
    (label : String) :
    (g.createDataChannel peer label).Belongs clients g.channels.length peer label :=
  ⟨_, List.getElem?_concat_length, rfl, rfl⟩

/-- The channel that `add_data_channel_2` answers belongs to the subscriber. -/
theorem Wired.addDataChannel2 {g g' : SessionChannels} {refuses : Nat → Bool} {peer : Nat} {label : String}
    {dc : Option Nat} (wired : g.Wired clients) (fanned : label ∈ g.fanoutDataChannels)
    (h : g.addDataChannel2 refuses peer label = (g', dc)) :
    g'.Wired clients ∧ g'.fanoutDataChannels = g.fanoutDataChannels ∧ ∀ d ∈ dc, g'.Belongs clients d peer label := by
  unfold SessionChannels.addDataChannel2 at h
  split at h
  next d kept =>
      cases h
      refine ⟨wired, rfl, fun d' same => ?_⟩
      cases same
      exact wired.belongs peer label d kept
  next free =>
      split at h
      · cases h
        exact ⟨wired, rfl, nofun⟩
      · cases h
        have made := createDataChannel_belongs clients g peer label
        refine ⟨?_, rfl, fun d' same => ?_⟩
        · exact (wired.createDataChannel peer label).registerDataChannel fanned free made wired.unkept
        · cases same
          exact made

/-- A handler on a peer's channel may capture what `get_data_channels` answers for it. -/
theorem Wired.onMessage_getDataChannels {g : SessionChannels} {dc peer : Nat} {label : String}
    (wired : g.Wired clients) (belongs : g.Belongs clients dc peer label) :
    (g.onMessage dc (g.getDataChannels clients (clients peer).id label)).Wired clients := by
  refine wired.onMessage (wired.getDataChannels_nodup _ _) fun channel found d => ?_
  obtain ⟨channel', found', rfl, held⟩ := belongs
  cases found.symm.trans found'
  rw [held]
  exact getDataChannels_mem

/-- No subscriber keeps an open channel under the label. -/
def Unopened (g : SessionChannels) (label : String) : Prop :=
  ∀ q d, g.subscriberChannels q label = some d → g.isOpen d = false

/-- A handler on a channel of a label that nobody keeps open has nothing to capture. -/
theorem Wired.onMessage_nil {g : SessionChannels} {dc peer : Nat} {label : String} (wired : g.Wired clients)
    (unopened : g.Unopened label) (belongs : g.Belongs clients dc peer label) :
    (g.onMessage dc []).Wired clients := by
  refine wired.onMessage List.nodup_nil fun channel found d => iff_of_false List.not_mem_nil ?_
  obtain ⟨channel', found', rfl, -⟩ := belongs
  cases found.symm.trans found'
  rintro ⟨q, -, -, -, kept, opened⟩
  exact Bool.false_ne_true ((unopened q d kept).symm.trans opened)

theorem isOpen_onMessage (g : SessionChannels) (dc : Nat) (dataChannels : List Nat) (d : Nat) :
    (g.onMessage dc dataChannels).isOpen d = g.isOpen d := by
  unfold isOpen SessionChannels.onMessage
  rw [List.getElem?_modify]
  cases g.channels[d]? with
  | none => rfl
  | some channel =>
      simp only [Option.any_some]
      split <;> rfl

/-- A new channel is not open. -/
theorem isOpen_createDataChannel (g : SessionChannels) (peer : Nat) (label : String) (d : Nat) :
    (g.createDataChannel peer label).isOpen d = g.isOpen d := by
  unfold isOpen SessionChannels.createDataChannel
  rw [List.getElem?_append]
  split
  · rfl
  next beyond =>
      rw [List.getElem?_eq_none (Nat.le_of_not_lt beyond)]
      cases d - g.channels.length <;> rfl

theorem Unopened.registerDataChannel {g : SessionChannels} {peer dc : Nat} {label : String}
    (unopened : g.Unopened label) (connecting : g.isOpen dc = false) :
    (g.registerDataChannel peer label dc).Unopened label := by
  intro q d kept
  change (if q = peer ∧ label = label then some dc else g.subscriberChannels q label) = some d at kept
  change g.isOpen d = false
  split at kept
  · cases kept
    exact connecting
  · exact unopened q d kept

theorem isOpen_length (g : SessionChannels) : g.isOpen g.channels.length = false := by
  unfold isOpen
  rw [List.getElem?_eq_none (Nat.le_refl _)]
  rfl

theorem Unopened.addDataChannel2 {g : SessionChannels} {label : String} (unopened : g.Unopened label)
    (refuses : Nat → Bool) (peer : Nat) : (g.addDataChannel2 refuses peer label).1.Unopened label := by
  unfold SessionChannels.addDataChannel2
  split
  · exact unopened
  · split
    · exact unopened
    · refine Unopened.registerDataChannel (fun q d kept => ?_) ?_
      · exact (isOpen_createDataChannel g peer label d).trans (unopened q d kept)
      · exact (isOpen_createDataChannel g peer label _).trans (isOpen_length g)

/-- What a peer of the loop over a new label finds, and leaves. -/
structure Offering (clients : Nat → SessionClient) (g : SessionChannels) (label : String) : Prop where
  wired : g.Wired clients
  fanned : label ∈ g.fanoutDataChannels
  unopened : g.Unopened label

theorem Offering.onMessage_nil {g : SessionChannels} {label : String} {dc peer : Nat}
    (offering : g.Offering clients label) (belongs : g.Belongs clients dc peer label) :
    (g.onMessage dc []).Offering clients label where
  wired := offering.wired.onMessage_nil offering.unopened belongs
  fanned := offering.fanned
  unopened q d kept := (isOpen_onMessage g dc [] d).trans (offering.unopened q d kept)

theorem Offering.offerDataChannel {g : SessionChannels} {label : String} (refuses : Nat → Bool) (peer : Nat)
    (offering : g.Offering clients label) : (offerDataChannel refuses label [] g peer).Offering clients label := by
  obtain ⟨wired, fanned, unopened⟩ := offering
  have later := unopened.addDataChannel2 refuses peer
  unfold SessionChannels.offerDataChannel
  split
  next g' dc added =>
      rw [added] at later
      obtain ⟨wired', same, belongs⟩ := wired.addDataChannel2 fanned added
      exact Offering.onMessage_nil ⟨wired', same ▸ fanned, later⟩ (belongs dc rfl)
  next g' added =>
      rw [added] at later
      obtain ⟨wired', same, -⟩ := wired.addDataChannel2 fanned added
      exact ⟨wired', same ▸ fanned, later⟩

theorem Wired.subscribeLabel {g : SessionChannels} {label : String} (refuses : Nat → Bool) (peer : Nat)
    (wired : g.Wired clients) (fanned : label ∈ g.fanoutDataChannels) :
    (subscribeLabel clients refuses peer g label).Wired clients ∧
      (subscribeLabel clients refuses peer g label).fanoutDataChannels = g.fanoutDataChannels := by
  unfold SessionChannels.subscribeLabel
  split
  next g' dc added =>
      obtain ⟨wired', same, belongs⟩ := wired.addDataChannel2 fanned added
      exact ⟨wired'.onMessage_getDataChannels (belongs dc rfl), same⟩
  next g' added =>
      obtain ⟨wired', same, -⟩ := wired.addDataChannel2 fanned added
      exact ⟨wired', same⟩

theorem Wired.subscribe {g : SessionChannels} {refuses : Nat → Bool} {peer : Nat} (wired : g.Wired clients) :
    (g.subscribe clients refuses peer).Wired clients := by
  unfold SessionChannels.subscribe
  split
  · have loop (labels : List String) (g' : SessionChannels) (wired' : g'.Wired clients)
        (fanned : ∀ label ∈ labels, label ∈ g'.fanoutDataChannels) :
        (labels.foldl (SessionChannels.subscribeLabel clients refuses peer) g').Wired clients := by
      induction labels generalizing g' with
      | nil => exact wired'
      | cons label rest ih =>
          obtain ⟨next, same⟩ := Wired.subscribeLabel refuses peer wired' (fanned label List.mem_cons_self)
          exact ih _ next fun l mem => same ▸ fanned l (List.mem_cons_of_mem _ mem)
    exact loop _ g wired fun _ => id
  · exact wired

/-- Nobody keeps a channel under a label that is not fanned out. -/
theorem Wired.getDataChannels_new {g : SessionChannels} {peerId label : String} (wired : g.Wired clients)
    (new : label ∉ g.fanoutDataChannels) : g.getDataChannels clients peerId label = [] := by
  rw [List.eq_nil_iff_forall_not_mem]
  intro d mem
  obtain ⟨q, -, -, -, kept, -⟩ := getDataChannels_mem.mp mem
  exact new (wired.labelled q label d kept)

theorem Wired.pushLabel {g : SessionChannels} (wired : g.Wired clients) (label : String) :
    Wired clients { g with fanoutDataChannels := g.fanoutDataChannels ++ [label] } where
  distinct := wired.distinct
  belongs := wired.belongs
  labelled q l d kept := List.mem_append_left _ (wired.labelled q l d kept)
  one := wired.one
  fits c channel found := (wired.fits c channel found).mono fun _ _ _ => id

theorem Offering.offerAll {refuses : Nat → Bool} {label : String} (peers : List Nat) {g : SessionChannels}
    (offering : g.Offering clients label) :
    (peers.foldl (SessionChannels.offerDataChannel refuses label []) g).Wired clients := by
  induction peers generalizing g with
  | nil => exact offering.wired
  | cons peer rest ih => exact ih (offering.offerDataChannel refuses peer)

/-- The first owner of a label finds no channel to send to; a later one, those open now. -/
theorem Wired.addDataChannel {g : SessionChannels} {refuses : Nat → Bool} {owner : Nat} {label : String}
    (wired : g.Wired clients) : (g.addDataChannel clients refuses owner label).Wired clients := by
  have created := wired.createDataChannel owner label
  have made := createDataChannel_belongs clients g owner label
  unfold SessionChannels.addDataChannel
  dsimp only
  split
  · exact created.onMessage_getDataChannels made
  next new =>
      have fanned : label ∈ g.fanoutDataChannels ++ [label] := List.mem_append_right _ (List.mem_singleton_self label)
      have unlabelled (q : Nat) : g.subscriberChannels q label = none := by
        refine Option.eq_none_iff_forall_ne_some.mpr fun d kept => ?_
        exact new (wired.labelled q label d kept)
      have pushed : Offering clients
          { g.createDataChannel owner label with fanoutDataChannels := g.fanoutDataChannels ++ [label] } label :=
        ⟨created.pushLabel label, fanned, fun q d kept => nomatch (unlabelled q).symm.trans kept⟩
      rw [created.getDataChannels_new new]
      split
      · exact pushed.wired
      next peerOwner found =>
          have same : (clients peerOwner).id = (clients owner).id := by
            simpa using List.find?_some found
          have belongs : Belongs clients
              { g.createDataChannel owner label with fanoutDataChannels := g.fanoutDataChannels ++ [label] }
              g.channels.length peerOwner label := by
            obtain ⟨channel, at_end, named, held⟩ := made
            exact ⟨channel, at_end, named, held.trans same.symm⟩
          refine Offering.offerAll _ ?_
          split
          · refine Offering.onMessage_nil ⟨?_, fanned, ?_⟩ belongs
            · exact pushed.wired.registerDataChannel fanned (unlabelled peerOwner) belongs wired.unkept
            · refine pushed.unopened.registerDataChannel ?_
              exact (isOpen_createDataChannel g owner label _).trans (isOpen_length g)
          · exact pushed.onMessage_nil belongs

theorem Wired.setReadyState {g : SessionChannels} (wired : g.Wired clients) (dc : Nat) (readyState : ReadyState) :
    (g.setReadyState dc readyState).Wired clients where
  distinct := wired.distinct
  belongs q label d kept := by
    obtain ⟨channel, found, named, held⟩ := wired.belongs q label d kept
    refine ⟨if dc = d then { channel with readyState } else channel, ?_, ?_, ?_⟩
    · exact (List.getElem?_modify _ _ _ _).trans (by rw [found]; rfl)
    · split <;> exact named
    · split <;> exact held
  labelled := wired.labelled
  one := wired.one
  fits c channel found := by
    unfold SessionChannels.setReadyState at found
    rw [List.getElem?_modify] at found
    obtain ⟨before, old, rfl⟩ := Option.map_eq_some_iff.mp found
    obtain ⟨nodup, given, distinct, kept⟩ := wired.fits c before old
    split <;> exact ⟨nodup, given, distinct, kept⟩

theorem Wired.removePeer {g : SessionChannels} (wired : g.Wired clients) (peer : Nat) :
    (g.removePeer clients peer).Wired clients where
  distinct := wired.distinct.filter _
  belongs := wired.belongs
  labelled := wired.labelled
  one := wired.one
  fits c channel found := (wired.fits c channel found).mono fun _ _ _ => id

theorem Wired.addPeer {g : SessionChannels} (wired : g.Wired clients) (peer : Nat) :
    (g.addPeer clients peer).Wired clients where
  distinct := by
    refine List.pairwise_append.mpr ⟨wired.distinct.filter _, List.pairwise_singleton _ _, fun q mem r last => ?_⟩
    cases List.mem_singleton.mp last
    exact of_decide_eq_true (List.mem_filter.mp mem).2
  belongs := wired.belongs
  labelled := wired.labelled
  one := wired.one
  fits c channel found := (wired.fits c channel found).mono fun _ _ _ => id

/-- What happens in a session; a subscriber may refuse a new channel in some steps. -/
inductive SessionStep where
  | addPeer (peer : Nat)
  | removePeer (peer : Nat)
  | subscribe (peer : Nat) (refuses : Nat → Bool)
  | addDataChannel (owner : Nat) (label : String) (refuses : Nat → Bool)
  | opened (dc : Nat)
  | closed (dc : Nat)
  | message (dc : Nat) (data : Bytes)

def step (clients : Nat → SessionClient) (g : SessionChannels) : SessionStep → Option SessionChannels
  | .addPeer peer => some (g.addPeer clients peer)
  | .removePeer peer => some (g.removePeer clients peer)
  | .subscribe peer refuses => some (g.subscribe clients refuses peer)
  | .addDataChannel owner label refuses => some (g.addDataChannel clients refuses owner label)
  | .opened dc =>
      if (g.channels[dc]?.map SessionChannel.readyState) = some .connecting then some (g.setReadyState dc .open)
      else none
  | .closed dc => some (g.setReadyState dc .closed)
  | .message dc _ => if dc < g.channels.length then some g else none

theorem step_wired {g g' : SessionChannels} {s : SessionStep} (wired : g.Wired clients)
    (h : g.step clients s = some g') : g'.Wired clients := by
  cases s with
  | addPeer peer => cases h; exact wired.addPeer peer
  | removePeer peer => cases h; exact wired.removePeer peer
  | subscribe peer refuses => cases h; exact wired.subscribe
  | addDataChannel owner label refuses => cases h; exact wired.addDataChannel
  | opened dc =>
      simp only [step] at h
      split at h
      · cases h; exact wired.setReadyState dc .open
      · cases h
  | closed dc => cases h; exact wired.setReadyState dc .closed
  | message dc data =>
      simp only [step] at h
      split at h
      · cases h; exact wired
      · cases h

/-- The channel is one of the peer's own. -/
def HeldBy (g : SessionChannels) (q d : Nat) : Bool := g.channels[d]?.any fun channel => channel.holder = q

/-- Another peer of the session that has an open channel of the label. -/
def Recipient (clients : Nat → SessionClient) (g : SessionChannels) (channel : SessionChannel) (q : Nat) : Prop :=
  q ∈ g.peers ∧ (clients q).id ≠ (clients channel.holder).id ∧
    ∃ own ∈ g.channels, own.label = channel.label ∧ own.holder = q ∧ own.readyState = .open

/-- A message is sent exactly once to each recipient, and never to a peer with its sender's id. -/
def ReachesEveryone (clients : Nat → SessionClient) (g : SessionChannels) : SessionStep → Prop
  | .message dc data => ∀ channel, g.channels[dc]? = some channel →
      (∀ q, Recipient clients g channel q → (g.message dc data).countP (g.HeldBy q) = 1) ∧
        ∀ q, (clients q).id = (clients channel.holder).id → (g.message dc data).countP (g.HeldBy q) = 0
  | _ => True

/-- The session in which the handler was set had, for each recipient of a message, an open
channel of its own, kept by another peer's subscriber under the label, that is still open; and
data that goes to anyone is UTF-8. -/
def Known (clients : Nat → SessionClient) (g : SessionChannels) : SessionStep → Prop
  | .message dc data => ∀ channel, g.channels[dc]? = some channel → ∀ q, Recipient clients g channel q →
      (∃ v ∈ channel.setIn, ∃ d, v.Gives clients (clients channel.holder).id channel.label d ∧
        g.HeldBy q d ∧ g.isOpen d) ∧ (ByteArray.mk data.toArray).IsValidUTF8
  | _ => True

theorem message_mem {g : SessionChannels} {dc d : Nat} {data : Bytes} :
    d ∈ g.message dc data ↔ d ∈ g.captured dc ∧ g.isOpen d ∧ (ByteArray.mk data.toArray).IsValidUTF8 := by
  unfold message fanoutMessage
  split
  next valid => simp only [List.mem_filter, valid, and_true]
  next invalid => simp only [List.not_mem_nil, invalid, and_false]

theorem captured_of_found {g : SessionChannels} {dc : Nat} {channel : SessionChannel}
    (found : g.channels[dc]? = some channel) : g.captured dc = channel.captured := by
  unfold captured
  rw [found]
  rfl

theorem heldBy_iff {g : SessionChannels} {q d : Nat} :
    g.HeldBy q d = true ↔ ∃ channel, g.channels[d]? = some channel ∧ channel.holder = q := by
  unfold HeldBy
  rw [Option.any_eq_true]
  simp only [decide_eq_true_eq]

/-- Each captured channel is one of a peer with an id of its own, which is not the sender's. -/
theorem Wired.captured_owner {g : SessionChannels} {dc d : Nat} {channel : SessionChannel} (wired : g.Wired clients)
    (found : g.channels[dc]? = some channel) (mem : d ∈ g.captured dc) : ∃ v ∈ channel.setIn, ∃ q ∈ v.peers,
      v.subscriberChannels q channel.label = some d ∧ (clients q).id ≠ (clients channel.holder).id ∧
        ∀ r, g.HeldBy r d → (clients r).id = (clients q).id := by
  have fits := wired.fits dc channel found
  rw [captured_of_found found] at mem
  obtain ⟨v, set, q, present, other, -, kept, -⟩ := (fits.given d).mp mem
  refine ⟨v, set, q, present, kept, other, fun r held => ?_⟩
  obtain ⟨own, at_d, -, same⟩ := wired.belongs q _ d (fits.kept v set q _ d kept)
  obtain ⟨own', at_d', rfl⟩ := heldBy_iff.mp held
  cases at_d.symm.trans at_d'
  exact same

/-- No peer holds two of the captured channels. -/
theorem Wired.captured_one {g : SessionChannels} {dc d e q : Nat} {channel : SessionChannel} (wired : g.Wired clients)
    (found : g.channels[dc]? = some channel) (mem : d ∈ g.captured dc) (mem' : e ∈ g.captured dc)
    (held : g.HeldBy q d) (held' : g.HeldBy q e) : d = e := by
  obtain ⟨v, set, r, present, kept, -, ids⟩ := wired.captured_owner found mem
  obtain ⟨v', set', r', present', kept', -, ids'⟩ := wired.captured_owner found mem'
  cases set.symm.trans set'
  have same : (clients r).id = (clients r').id := (ids q held).symm.trans (ids' q held')
  have alike : r = r' := by
    have apart := (wired.fits dc channel found).distinct v set
    exact List.inj_on_of_nodup_map (List.pairwise_map.mpr apart) present present' same
  subst alike
  exact Option.some.inj (kept.symm.trans kept')

/-- One of a list without repeats, all of whose members alike are the same, counts once. -/
theorem countP_one_iff {l : List Nat} {P : Nat → Bool} (nodup : l.Nodup)
    (alike : ∀ d ∈ l, ∀ e ∈ l, P d = true → P e = true → d = e) : l.countP P = 1 ↔ ∃ d ∈ l, P d = true := by
  constructor
  · intro one
    exact List.countP_pos_iff.mp (one ▸ Nat.one_pos)
  · rintro ⟨d, mem, here⟩
    have only : l.countP P = l.countP (· == d) := by
      refine List.countP_congr fun e mem' => ?_
      rw [beq_iff_eq]
      exact ⟨fun there => alike e mem' d mem there here, fun same => same ▸ here⟩
    rw [only]
    exact List.count_eq_one_of_mem nodup mem

theorem reachesEveryone_iff {g : SessionChannels} {s : SessionStep} (wired : g.Wired clients) :
    ReachesEveryone clients g s ↔ Known clients g s := by
  cases s with
  | message dc data =>
      refine forall_congr' fun channel => forall_congr' fun found => ?_
      have fits := wired.fits dc channel found
      have once : (g.message dc data).Nodup := by
        unfold message fanoutMessage
        rw [captured_of_found found]
        split
        · exact fits.nodup.filter _
        · exact List.nodup_nil
      have others : ∀ q, (clients q).id = (clients channel.holder).id →
          (g.message dc data).countP (g.HeldBy q) = 0 := by
        intro q sender
        refine List.countP_eq_zero.mpr fun d mem held => ?_
        obtain ⟨v, -, r, -, -, differ, ids⟩ := wired.captured_owner found (message_mem.mp mem).1
        exact differ ((ids q held).symm.trans sender)
      rw [and_iff_left others]
      refine forall_congr' fun q => forall_congr' fun recipient => ?_
      rw [countP_one_iff once fun d mem e mem' => ?_]
      · simp only [message_mem, captured_of_found found, fits.given]
        constructor
        · rintro ⟨d, ⟨⟨v, set, gives⟩, opened, valid⟩, held⟩
          exact ⟨⟨v, set, d, gives, held, opened⟩, valid⟩
        · rintro ⟨⟨v, set, d, gives, held, opened⟩, valid⟩
          exact ⟨d, ⟨⟨v, set, gives⟩, opened, valid⟩, held⟩
      · exact wired.captured_one found (message_mem.mp mem).1 (message_mem.mp mem').1
  | _ => exact Iff.rfl

theorem start_wired (clients : Nat → SessionClient) : Wired clients {} where
  distinct := List.Pairwise.nil
  belongs _ _ _ kept := by cases kept
  labelled _ _ _ kept := by cases kept
  one _ _ _ _ _ kept := by cases kept
  fits _ _ found := by cases found

/-- In a run every message reaches everyone exactly when every recipient was there with its
channel open when the handler was set. -/
theorem guarded_reachesEveryone_iff (clients : Nat → SessionClient) (steps : List SessionStep) :
    Guarded (step clients) (ReachesEveryone clients) {} steps ↔ Guarded (step clients) (Known clients) {} steps :=
  guarded_iff (Wired clients) (fun _ _ wired => reachesEveryone_iff wired)
    (fun _ _ _ wired _ moved => step_wired wired moved) (start_wired clients)

def twoClients (n : Nat) : SessionClient := { id := if n = 0 then "alice" else "bob" }

/-- The first peer opens a channel, then the second joins and its channel opens. -/
def lateJoinSteps : List SessionStep :=
  [.addPeer 0, .subscribe 0 fun _ => false, .addDataChannel 0 "chat" fun _ => false, .opened 0,
    .addPeer 1, .subscribe 1 fun _ => false, .opened 1]

/-- The second peer is a recipient of a message of the first, which is sent to nobody. -/
theorem late_peer_not_reached :
    ∃ g channel, run (step twoClients) {} lateJoinSteps = some g ∧ g.channels[0]? = some channel ∧
      Recipient twoClients g channel 1 ∧ g.message 0 [104, 105] = [] ∧
      ¬ ReachesEveryone twoClients g (.message 0 [104, 105]) := by
  have recipient : ∃ g channel, run (step twoClients) {} lateJoinSteps = some g ∧ g.channels[0]? = some channel ∧
      Recipient twoClients g channel 1 ∧ g.captured 0 = [] :=
    ⟨_, _, rfl, rfl, ⟨by decide, by decide, _, List.mem_cons_of_mem _ List.mem_cons_self, rfl, rfl, rfl⟩, rfl⟩
  obtain ⟨g, channel, reached, found, present, nobody⟩ := recipient
  have silent : g.message 0 [104, 105] = [] := by
    unfold message fanoutMessage
    rw [nobody]
    exact ite_self []
  refine ⟨g, channel, reached, found, present, silent, fun reaches => ?_⟩
  have once := (reaches channel found).1 1 present
  rw [silent] at once
  cases once

end SessionChannels

end Rsfu

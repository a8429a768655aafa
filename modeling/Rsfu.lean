import Rsfu.GuardedRun
import Rsfu.DownTrack
import Rsfu.Responder
import Rsfu.BucketRing
import Rsfu.Reception
import Rsfu.SequenceTracking
import Rsfu.RetransmissionStore
import Rsfu.NackPacking
import Rsfu.NackTracking
import Rsfu.SequencerLookup
import Rsfu.TrackRuns
import Rsfu.KeyFrameGate
import Rsfu.OutgoingContinuity
import Rsfu.DistinctNumbers
import Rsfu.ArrivalReport
import Rsfu.ChunkWords
import Rsfu.StatusChunks
import Rsfu.UpstreamRtcp
import Rsfu.RelayRequests
import Rsfu.Fanout
import Rsfu.SubscriptionOnce
import Rsfu.LayerLists
import Rsfu.SpatialSwitch
import Rsfu.OfferAnswer
import Rsfu.Renegotiation
import Rsfu.OneSession
import Rsfu.FeedbackSource
import Rsfu.NackMap
import Rsfu.Vp8Rewriting
import Rsfu.TemporalFilter
import Rsfu.SourceTimestamps
import Rsfu.RelaySignal
import Rsfu.OwnLocks
import Rsfu.RemoteCandidates
import Rsfu.ReceiveOverflow
import Rsfu.SendOverflow
import Rsfu.NackRetries
import Rsfu.StoreContents
import Rsfu.SlotOverrun
import Rsfu.LatePackets
import Rsfu.RetransmissionSpacing
import Rsfu.FeedbackReports
import Rsfu.DeltaCoding
import Rsfu.ArrivalTimes
import Rsfu.PacketRetransmission
import Rsfu.H264Units
import Rsfu.TransportNumbers
import Rsfu.PliThrottling
import Rsfu.SenderStatistics
import Rsfu.BitrateWindows
import Rsfu.EarlyExits
import Rsfu.ReceptionReports
import Rsfu.ChunkWrites
import Rsfu.PacketLength
import Rsfu.FieldWidths
import Rsfu.RelayFeedback
import Rsfu.Middlewares
import Rsfu.AnswerFailures
import Rsfu.JoinFailures
import Rsfu.TrackStore
import Rsfu.JsonSignal
import Rsfu.ChannelInput
import Rsfu.ActiveSpeakers
import Rsfu.LatestTimestamp
import Rsfu.NtpTime
import Rsfu.StreamCalls
import Rsfu.ForwardingTurns
import Rsfu.SfuLockOrder
import Rsfu.KeyFrameRequests
import Rsfu.PacketTranslation
import Rsfu.ReceiverPublishing
import Rsfu.SharedResponder
import Rsfu.SourceIntroductions

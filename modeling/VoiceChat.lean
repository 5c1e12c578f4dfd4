import VoiceChat.Connection.Run
import VoiceChat.Event.Writer
import VoiceChat.Proofs.ActiveServer
import VoiceChat.Proofs.Backoff
import VoiceChat.Proofs.Broadcasts
import VoiceChat.Proofs.CancelledConnect
import VoiceChat.Proofs.Coherence
import VoiceChat.Proofs.Countdown
import VoiceChat.Proofs.DeclaredFields
import VoiceChat.Proofs.DeletedMessages
import VoiceChat.Proofs.Disconnect
import VoiceChat.Proofs.EvictedMessages
import VoiceChat.Proofs.FailedSwitch
import VoiceChat.Proofs.Flags
import VoiceChat.Proofs.HandlerFailures
import VoiceChat.Proofs.HistoryLimit
import VoiceChat.Proofs.HistoryWindow
import VoiceChat.Proofs.IdIndex
import VoiceChat.Proofs.InactiveServers
import VoiceChat.Proofs.Independence
import VoiceChat.Proofs.Indicators
import VoiceChat.Proofs.Kick
import VoiceChat.Proofs.LateFailures
import VoiceChat.Proofs.Membership
import VoiceChat.Proofs.MessageContent
import VoiceChat.Proofs.NarrationIds
import VoiceChat.Proofs.Outcomes
import VoiceChat.Proofs.OverlappingConnects
import VoiceChat.Proofs.Presence
import VoiceChat.Proofs.Reactions
import VoiceChat.Proofs.Reconnect
import VoiceChat.Proofs.Redelivery
import VoiceChat.Proofs.RepeatedConnect
import VoiceChat.Proofs.RoundTrip
import VoiceChat.Proofs.SuccessfulConnect
import VoiceChat.Proofs.UnreadCount
import VoiceChat.Proofs.UnreadOnScreen
import VoiceChat.Session.Run
import VoiceChat.Settings.Load
import VoiceChat.Settings.Logging
import VoiceChat.Store.Run

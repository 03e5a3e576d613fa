import MixerPanel.App.Stage
import MixerPanel.Browser.Operation
import MixerPanel.Config
import MixerPanel.Console
import MixerPanel.Desk
import MixerPanel.Device.Capability
import MixerPanel.Store.Description
import MixerPanel.View.Component
import MixerPanel.Proofs.ActiveDevice
import MixerPanel.Proofs.DocumentRefinement
import MixerPanel.Proofs.RefusedFrames
import MixerPanel.Proofs.Convergence
import MixerPanel.Proofs.Notifications
import MixerPanel.Proofs.Answers
import MixerPanel.Proofs.SingleLink
import MixerPanel.Proofs.Interchange
import MixerPanel.Proofs.Subscriptions
import MixerPanel.Proofs.MiniQuery
import MixerPanel.Proofs.LateAnswers
import MixerPanel.Proofs.Agreement
import MixerPanel.Proofs.Lexing
import MixerPanel.Proofs.Layout
import MixerPanel.Proofs.StatusParsers
import MixerPanel.Proofs.StatusRoundTrip
import MixerPanel.Proofs.FrameRoundTrip
import MixerPanel.Proofs.StartupMachine
import MixerPanel.Proofs.Links
import MixerPanel.Proofs.SingleStart
import MixerPanel.Proofs.Handover
import MixerPanel.Proofs.ModelledMembers
import MixerPanel.Proofs.OtherModels
import MixerPanel.Proofs.Grammar
import MixerPanel.Proofs.ResponseReading
import MixerPanel.Proofs.FrameContent
import MixerPanel.Proofs.GrammarExact
import MixerPanel.Proofs.DeviceChoice
import MixerPanel.Proofs.Overrides
import MixerPanel.Proofs.StartupSequence
import MixerPanel.Proofs.Amendments
import MixerPanel.Proofs.Delays
import MixerPanel.Proofs.PageSettings
import MixerPanel.Proofs.SerialCheck
import MixerPanel.Proofs.RequestIds
import MixerPanel.Proofs.VersionTexts

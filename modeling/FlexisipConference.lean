import FlexisipConference.Library.MachineProofs
import FlexisipConference.Library.HeapProofs
import FlexisipConference.Library.MultimapProofs
import FlexisipConference.Library.SubstringProofs
import FlexisipConference.Library.IssuingProofs
import FlexisipConference.Library.RegistryProofs
import FlexisipConference.SdkProofs
import FlexisipConference.ReginfoProofs
import FlexisipConference.ClientProofs
import FlexisipConference.DispatchProofs
import FlexisipConference.NotifyProofs
import FlexisipConference.QuietRunProofs
import FlexisipConference.EventProofs
import FlexisipConference.DeviceViewProofs
import FlexisipConference.ReplayProofs
import FlexisipConference.ContactStateProofs
import FlexisipConference.SubscriptionProofs
import FlexisipConference.CapabilityProofs
import FlexisipConference.LocalExternalProofs
import FlexisipConference.StartRaceProofs
import FlexisipConference.HandlerProofs
import FlexisipConference.InvariantProofs
import FlexisipConference.HandlerStepProofs
import FlexisipConference.StoreProofs
import FlexisipConference.FanoutProofs
import FlexisipConference.SilenceProofs
import FlexisipConference.LifetimeProofs
import FlexisipConference.SharingProofs
import FlexisipConference.ClientStepProofs
import FlexisipConference.CallProofs
import FlexisipConference.RecoveryProofs
import FlexisipConference.AnnouncementProofs
import FlexisipConference.ServerProofs
import FlexisipConference.ObservationProofs
import FlexisipConference.SimilarityProofs
import FlexisipConference.IndependenceProofs
import FlexisipConference.AddressProofs
import FlexisipConference.AorProofs
import FlexisipConference.CodecProofs
import FlexisipConference.AccountProofs
import FlexisipConference.BindingProofs
import FlexisipConference.RestartProofs
import FlexisipConference.DirectoryProofs
import FlexisipConference.RefinementProofs
import FlexisipConference.RegistrarProofs
import FlexisipConference.WatchProofs
import FlexisipConference.FootprintProofs
import FlexisipConference.ShutdownProofs
import FlexisipConference.StartupProofs
import FlexisipConference.OverrideProofs
import FlexisipConference.FocusProofs

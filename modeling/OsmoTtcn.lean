import OsmoTtcn.AckNackProofs
import OsmoTtcn.BcdIdentityProofs
import OsmoTtcn.BspCanonicalProofs
import OsmoTtcn.BspPackageProofs
import OsmoTtcn.BssgpClientsProofs
import OsmoTtcn.BssgpLenProofs
import OsmoTtcn.BssgpResetProofs
import OsmoTtcn.BssgpSignallingProofs
import OsmoTtcn.CbchVerdictProofs
import OsmoTtcn.CtrlCountersProofs
import OsmoTtcn.DiameterEmulationProofs
import OsmoTtcn.DnsHelpersProofs
import OsmoTtcn.EgprsAckNackProofs
import OsmoTtcn.EgprsDlProofs
import OsmoTtcn.EgprsRoundTripProofs
import OsmoTtcn.GsupEmulationProofs
import OsmoTtcn.GtpEmulationProofs
import OsmoTtcn.GtpTidAllocProofs
import OsmoTtcn.Gtpv1EmulationProofs
import OsmoTtcn.IpaEmulationProofs
import OsmoTtcn.IpaLinkProofs
import OsmoTtcn.IuupBitsProofs
import OsmoTtcn.IuupInitProofs
import OsmoTtcn.KeyDerivationProofs
import OsmoTtcn.LlcFcsProofs
import OsmoTtcn.LlcNumbersProofs
import OsmoTtcn.MgcpEmulationProofs
import OsmoTtcn.MnccEmulationProofs
import OsmoTtcn.MnccUserPlaneProofs
import OsmoTtcn.MutexRunProofs
import OsmoTtcn.NasFreshnessProofs
import OsmoTtcn.NasSecurityProofs
import OsmoTtcn.NgapAuthProofs
import OsmoTtcn.NsEmulationProofs
import OsmoTtcn.NsLoadSharingProofs
import OsmoTtcn.NsVcgProofs
import OsmoTtcn.OsmuxEmulationProofs
import OsmoTtcn.PcuSchedProofs
import OsmoTtcn.PfcpEmulationProofs
import OsmoTtcn.PrometheusProofs
import OsmoTtcn.RanExpectProofs
import OsmoTtcn.RanImsiProofs
import OsmoTtcn.RanNsdProofs
import OsmoTtcn.RslDeliveryProofs
import OsmoTtcn.RslLastActProofs
import OsmoTtcn.RslTransceiversProofs
import OsmoTtcn.RspPermittedEinsProofs
import OsmoTtcn.RspSignatureProofs
import OsmoTtcn.RtpTxStatsProofs
import OsmoTtcn.RuaEmulationProofs
import OsmoTtcn.S1apServerProofs
import OsmoTtcn.SgsapEmulationProofs
import OsmoTtcn.SipEmulationProofs
import OsmoTtcn.SmppEmulationProofs
import OsmoTtcn.Snow3gF9Proofs
import OsmoTtcn.Snow3gProofs
import OsmoTtcn.StatsdVerdictProofs
import OsmoTtcn.TdmaFrameProofs
import OsmoTtcn.TlliTypeProofs
import OsmoTtcn.TlvBoundsProofs
import OsmoTtcn.UeAssociationsProofs
import OsmoTtcn.UeMuxProofs
import OsmoTtcn.UlDecodeSafetyProofs
import OsmoTtcn.UlTbfAckProofs
import OsmoTtcn.UlTbfCountdownProofs

import CorporateClient.FastPathFragments
import CorporateClient.OrderLaws
import CorporateClient.NegoLaws
import CorporateClient.CredsspCredentials
import CorporateClient.CredsspRelease
import CorporateClient.Activation
import CorporateClient.Redirection
import CorporateClient.CapabilityNegotiation
import CorporateClient.ClientInfoDelivery
import CorporateClient.DynamicChannels
import CorporateClient.BitmapSafety
import CorporateClient.TransportBounds
import CorporateClient.BerLaws
import CorporateClient.MppcBounds
import CorporateClient.Per
import CorporateClient.CacheLaws
import CorporateClient.Offscreen
import CorporateClient.GdiCopy
import CorporateClient.RfxRoundTrip
import CorporateClient.ServerSecurity
import CorporateClient.RfxSafety
import CorporateClient.ChannelReads
import CorporateClient.Cdpinger

import TrimRouter.DhcpClient.Rebinding
import TrimRouter.DhcpClient.WanService
import TrimRouter.DhcpServer.Decline
import TrimRouter.DhcpServer.HostnameClaims
import TrimRouter.DhcpServer.HostnameOwnership
import TrimRouter.DhcpServer.LeaseReport
import TrimRouter.DhcpServer.NamesFollow
import TrimRouter.DhcpServer.ProbeLoop
import TrimRouter.DhcpServer.Relay
import TrimRouter.DhcpServer.Renewal
import TrimRouter.DhcpServer.ReservedNames
import TrimRouter.DhcpServer.SpoofFrame
import TrimRouter.Dns.CacheKeys
import TrimRouter.Dns.CacheLifetime
import TrimRouter.Dns.Failover
import TrimRouter.Dns.HostQueries
import TrimRouter.Dns.Joining
import TrimRouter.Dns.LocalTables
import TrimRouter.Dns.RateLimit
import TrimRouter.Dns.ReplySize
import TrimRouter.Dns.TcpFraming
import TrimRouter.Firewall.Forwarding
import TrimRouter.Interface
import TrimRouter.Kmod.Dependencies
import TrimRouter.Kmod.Wildcard
import TrimRouter.Lan.Decision
import TrimRouter.Lan.Migration
import TrimRouter.Lan.PreRegistration
import TrimRouter.Logging.Levels
import TrimRouter.Logging.RecentLogs
import TrimRouter.Logging.Reclaim
import TrimRouter.Logging.Rotation
import TrimRouter.Observability.HostCheck
import TrimRouter.Observability.Stop
import TrimRouter.Observability.StreamPermits
import TrimRouter.Packet.RoundTrip
import TrimRouter.Power
import TrimRouter.Sntp.Manager
import TrimRouter.Storage
import TrimRouter.Watchdog.Detection

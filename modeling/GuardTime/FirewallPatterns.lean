import GuardTime.Policy

namespace GuardTime

structure VpnPortSignature where
  protocol : Protocol
  port : Nat
  provider : String
  weight : Nat

structure VpnIpRange where
  cidr : String
  provider : String
  weight : Nat

structure DohProvider where
  name : String
  ip : String

def VPN_PORT_SIGNATURES : List VpnPortSignature := [
  ⟨.udp, 51820, "WireGuard", 90⟩,
  ⟨.udp, 1194, "OpenVPN", 90⟩,
  ⟨.tcp, 1194, "OpenVPN (TCP)", 85⟩,
  ⟨.udp, 500, "IKEv2/IPsec", 75⟩,
  ⟨.udp, 4500, "IKEv2/IPsec (NAT-T)", 75⟩,
  ⟨.udp, 2408, "Cloudflare WARP", 80⟩,
  ⟨.udp, 1701, "L2TP", 70⟩,
  ⟨.tcp, 1723, "PPTP", 80⟩,
  ⟨.tcp, 992, "SoftEther", 75⟩,
  ⟨.tcp, 5555, "SoftEther", 60⟩,
  ⟨.udp, 41194, "Outline (Shadowsocks, common default)", 55⟩,
  ⟨.udp, 41641, "Tailscale", 85⟩,
  ⟨.udp, 9993, "ZeroTier", 85⟩]

def VPN_IP_RANGES : List VpnIpRange := [
  ⟨"162.159.192.0/24", "Cloudflare WARP", 85⟩,
  ⟨"162.159.193.0/24", "Cloudflare WARP", 85⟩,
  ⟨"100.64.0.0/10", "Tailscale", 70⟩]

def DOT_PORTS : List Nat := [853]

def DOH_PROVIDER_IPS : List DohProvider := [
  ⟨"Cloudflare", "1.1.1.1"⟩,
  ⟨"Cloudflare", "1.0.0.1"⟩,
  ⟨"Google", "8.8.8.8"⟩,
  ⟨"Google", "8.8.4.4"⟩,
  ⟨"Quad9", "9.9.9.9"⟩,
  ⟨"Quad9", "149.112.112.112"⟩,
  ⟨"OpenDNS", "208.67.222.222"⟩,
  ⟨"OpenDNS", "208.67.220.220"⟩,
  ⟨"NextDNS", "45.90.28.0"⟩,
  ⟨"NextDNS", "45.90.30.0"⟩,
  ⟨"AdGuard", "94.140.14.14"⟩,
  ⟨"AdGuard", "94.140.15.15"⟩,
  ⟨"CleanBrowsing", "185.228.168.9"⟩,
  ⟨"CleanBrowsing", "185.228.169.9"⟩]

/-- The built-in resolvers followed by the operator's reputation list. -/
def dohProviders (config : Config) : List DohProvider :=
  DOH_PROVIDER_IPS ++ config.dohReputationIps.map fun ip => ⟨"operator-reputation-list", ip⟩

end GuardTime

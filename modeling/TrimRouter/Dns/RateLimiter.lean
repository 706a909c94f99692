import TrimRouter.Net
import TrimRouter.Lib.HashMap
import Mathlib.Data.Rat.Defs
import Mathlib.Algebra.Order.Ring.Rat

/-!
# The rate limiter of the DNS forwarder

`services/dns_forwarder/rate_limiter.rs`: one token bucket for each client.  The code
computes in `f64`, the model in rational numbers.
-/

namespace TrimRouter.Dns

/-- `DEFAULT_DNS_RATE_LIMIT_PER_SEC`. -/
def defaultDnsRateLimitPerSec : ℚ := 100

/-- `DEFAULT_DNS_BURST_QUOTA`. -/
def defaultDnsBurstQuota : ℚ := 150

/-- `IDLE_CLIENT_TIMEOUT`. -/
def idleClientTimeout : Nat := fromSecs 10

/-- `ClientBucket`. -/
structure ClientBucket where
  tokens : ℚ
  lastUpdate : Nat
deriving DecidableEq

/-- `DnsRateLimiter`. -/
structure DnsRateLimiter where
  clients : HashMap Ipv4Addr ClientBucket
  ratePerSec : ℚ
  maxBurst : ℚ

namespace DnsRateLimiter

/-- `DnsRateLimiter::new`. -/
def new (ratePerSec maxBurst : ℚ) : DnsRateLimiter where
  clients := ∅
  ratePerSec := max ratePerSec 1
  maxBurst := max maxBurst 1

/-- `DnsRateLimiter::default`. -/
def default : DnsRateLimiter := new defaultDnsRateLimitPerSec defaultDnsBurstQuota

/-- `as_secs_f64` of the time between two instants. -/
def elapsedSecs (since now : Nat) : ℚ := mkRat ((now - since : Nat) : Int) 1000000000

/-- `check`: the answer for a query of the client, and the limiter after it. -/
def check (limiter : DnsRateLimiter) (now : Nat) (clientIp : Ipv4Addr) :
    Bool × DnsRateLimiter :=
  let bucket := (limiter.clients.lookup clientIp).getD ⟨limiter.maxBurst, now⟩
  let tokens :=
    min (bucket.tokens + elapsedSecs bucket.lastUpdate now * limiter.ratePerSec)
      limiter.maxBurst
  if 1 ≤ tokens then
    (true, { limiter with clients := limiter.clients.insert clientIp ⟨tokens - 1, now⟩ })
  else (false, { limiter with clients := limiter.clients.insert clientIp ⟨tokens, now⟩ })

/-- `retain_recent`. -/
def retainRecent (limiter : DnsRateLimiter) (now : Nat) : DnsRateLimiter :=
  { limiter with
    clients := limiter.clients.retain fun _ bucket =>
      now - bucket.lastUpdate ≤ idleClientTimeout }

/-- A client that the limiter does not know is let through. -/
theorem check_default_new (now : Nat) (clientIp : Ipv4Addr) :
    (default.check now clientIp).1 = true := by
  have full : 1 ≤ min (default.maxBurst + 0 * default.ratePerSec) default.maxBurst := by
    decide +kernel
  have unknown : AList.lookup clientIp default.clients = none := AList.lookup_empty clientIp
  have idle : elapsedSecs now now = 0 := by simp [elapsedSecs]
  simp only [check, unknown, Option.getD_none, idle]
  rw [if_pos full]

end DnsRateLimiter

end TrimRouter.Dns

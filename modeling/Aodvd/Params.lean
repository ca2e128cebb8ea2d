/-
This file fixes the numbers and small types the daemon is built on: addresses and
sequence numbers as 32-bit words, times as `struct timeval`, the protocol constants of
`params.h`, the interfaces of `struct host_info` and the command-line options of
`main.c`.

Unsigned counters are natural numbers with the wrap below zero written out where the
source decrements; the default build is modelled, in which `CONFIG_GATEWAY` is not
defined.
-/

import Mathlib

namespace Aodvd

/-! ### Words -/

/-- An IPv4 address as `s_addr` holds it. -/
abbrev Addr := BitVec 32

/-- The instance by which the model decides membership in lists of addresses, under one name: the
definitions that use it would else carry a copy of its proof each. -/
instance : LawfulBEq Addr := inferInstance

/-- A sequence number, `u_int32_t`. -/
abbrev Seqno := BitVec 32

/-- The cast `(int32_t) seqno`. -/
def signed (seqno : Seqno) : Int := seqno.toInt

/-- `seqno_incr`: zero stays zero and the largest number is followed by one. -/
def seqnoIncr (seqno : Seqno) : Seqno :=
  if seqno = 0#32 then 0#32 else if seqno = 0xFFFFFFFF#32 then 1#32 else seqno + 1#32

/-- Subtraction of an `unsigned int`, which wraps below zero. -/
def uintSub (value amount : Nat) : Nat :=
  if amount ≤ value then value - amount else value + 2 ^ 32 - amount

/-- `AODV_BROADCAST`. -/
def aodvBroadcast : Addr := 0xFFFFFFFF#32

/-! ### Times -/

/-- `struct timeval`. -/
structure Timeval where
  sec : Int
  usec : Int
  deriving DecidableEq, Repr

/-- The zero time that `timer_init` and a lost neighbour leave behind. -/
def timevalZero : Timeval := ⟨0, 0⟩

/-- `timeval_diff`: the difference in milliseconds, truncated toward zero. -/
def timevalDiff (first second : Timeval) : Int :=
  ((first.sec - second.sec) * 1000000 + first.usec - second.usec).tdiv 1000

/-- `timeval_add_msec`. -/
def timevalAddMsec (time : Timeval) (msec : Nat) : Timeval :=
  let total := time.usec + msec * 1000
  ⟨time.sec + total / 1000000, total % 1000000⟩

/-- The deadline `timer_set_timeout` computes, with C's division toward zero. -/
def timevalDeadline (time : Timeval) (msec : Int) : Timeval :=
  let total := time.usec + msec * 1000
  ⟨time.sec + total.tdiv 1000000, total.tmod 1000000⟩

/-! ### Protocol constants -/

def activeRouteTimeoutLlf : Nat := 10000
def activeRouteTimeoutHello : Nat := 3000
def allowedHelloLoss : Nat := 2
def helloInterval : Nat := 1000
def helloDelay : Nat := 50
def routeTimeoutSlack : Nat := 100
def jitterInterval : Nat := 100
def localAddTtl : Nat := 2
def netDiameter : Nat := 35
def nodeTraversalTime : Nat := 40
def ttlStart : Nat := 2
def ttlIncrement : Nat := 2
def ttlThreshold : Nat := 7
def timeoutBuffer : Nat := 2
def rreqRetries : Nat := 2
def rreqRatelimit : Nat := 10
def rerrRatelimit : Nat := 10
def maxTtl : Nat := 255

/-- `K * max(ACTIVE_ROUTE_TIMEOUT_HELLO, ALLOWED_HELLO_LOSS * HELLO_INTERVAL)`. -/
def deletePeriod : Nat := 5 * max activeRouteTimeoutHello (allowedHelloLoss * helloInterval)

def maxRepairTtl : Nat := 3 * netDiameter / 10
def netTraversalTime : Nat := 2 * nodeTraversalTime * netDiameter
def pathDiscoveryTime : Nat := 2 * netTraversalTime
def nextHopWait : Nat := nodeTraversalTime + 10

/-- `RING_TRAVERSAL_TIME` for a search of the given radius. -/
def ringTraversalTime (ttl : Nat) : Nat := 2 * nodeTraversalTime * (ttl + timeoutBuffer)

def blacklistTimeout : Nat :=
  rreqRetries * netTraversalTime + (ttlThreshold - ttlStart) / ttlIncrement + 1 + rreqRetries

/-! ### Interfaces and options -/

/-- The fields of an enabled `struct dev_info` that the daemon's logic reads. -/
structure Dev where
  ifindex : Nat
  ipaddr : Addr
  netmask : Addr
  broadcast : Addr
  deriving DecidableEq, Repr

/-- An argument of the option `-r`: whether `isdigit` holds of its first character, and
`atof(optarg) * 1000` without its fraction. -/
structure RtLogArg where
  isDigit : Bool
  msec : Nat
  deriving DecidableEq, Repr

/-- The command-line options and the enabled interfaces, in the order of `devs`. -/
structure Config where
  unidirHack : Bool
  rreqGratuitous : Bool
  expandingRingSearch : Bool
  localRepair : Bool
  receiveNHellos : Nat
  helloJittering : Bool
  optimizedHellos : Bool
  ratelimit : Bool
  waitOnReboot : Bool
  llfeedback : Bool
  rtLogArgs : List RtLogArg
  devs : List Dev

/-- The defaults of `main.c` on the given interfaces. -/
def defaultConfig (devs : List Dev) : Config where
  unidirHack := false
  rreqGratuitous := false
  expandingRingSearch := true
  localRepair := false
  receiveNHellos := 0
  helloJittering := true
  optimizedHellos := false
  ratelimit := true
  waitOnReboot := true
  llfeedback := false
  rtLogArgs := []
  devs := devs

/-- The conversion of a `double` that is not negative to an `int`: one out of range gives the least
`int`. -/
def intOfDouble (value : Nat) : Int := if value < 2 ^ 31 then value else -2 ^ 31

/-- `rt_log_interval` once the options are read: an argument that does not begin with a digit is
passed over. -/
def Config.rtLogInterval (config : Config) : Int :=
  config.rtLogArgs.foldl
    (fun interval arg => if arg.isDigit then intOfDouble arg.msec else interval) 0

/-- `ACTIVE_ROUTE_TIMEOUT`, which the option for link layer feedback raises. -/
def activeRouteTimeout (config : Config) : Nat :=
  if config.llfeedback then activeRouteTimeoutLlf else activeRouteTimeoutHello

/-- `DEV_IFINDEX`: the interface with an index; the zeroed error slot of `devs` is `none`. -/
def devIfindex (config : Config) (ifindex : Nat) : Option Dev :=
  config.devs.find? fun dev => decide (dev.ifindex = ifindex)

/-- `DEV_IFINDEX(ifindex).ipaddr`. -/
def ipaddrOf (config : Config) (ifindex : Nat) : Addr :=
  ((devIfindex config ifindex).map Dev.ipaddr).getD 0#32

/-- The addresses of the enabled interfaces. -/
def ownAddrs (config : Config) : List Addr := config.devs.map Dev.ipaddr

end Aodvd

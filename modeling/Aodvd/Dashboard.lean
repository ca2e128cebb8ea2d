/-
This file models the topology of the dashboard (`app.py`) and the requests that change it.

A request runs until it calls `run_cmd`. There it waits for the command, and other requests run: the
server is monkey-patched, so that a call of `subprocess.run` gives way. A request in progress is a
task, which is the call at which it waits together with the variables that it still uses. A request
that raises an exception ends where it is. What the requests answer and log is left out, and so are
the daemons that a node runs, which no request here starts.
-/

import Aodvd.AddressText
import Aodvd.Library.Cooperation
import Aodvd.Library.Runs

namespace Aodvd.Dashboard

open PythonText

/-! ### The topology -/

/-- A value of `topology["nodes"]`. -/
@[ext]
structure Node where
  name : List Char
  ips : List (List Char)
  deriving DecidableEq, Repr

/-- The fields of a link that are never written again. -/
structure Wire where
  id : List Char
  src : List Char
  dst : List Char
  vethSrc : List Char
  vethDst : List Char
  ipSrc : List Char
  ipDst : List Char
  deriving DecidableEq, Repr

/-- An element of `topology["links"]`. -/
structure Link extends Wire where
  up : Bool
  deriving DecidableEq, Repr

/-- `topology` and `_link_counter`; the nodes in the order in which their keys were added. -/
structure Topology where
  nodes : List Node
  links : List Link
  nfqueueEnabled : Bool
  linkCounter : Nat
  deriving DecidableEq, Repr

/-- `ns in topology["nodes"]`. -/
def Topology.hasNode (topology : Topology) (ns : List Char) : Bool :=
  topology.nodes.any fun node => node.name = ns

/-- `topology["nodes"][ns] = {"name": ns, "ips": []}`. -/
def Topology.setNode (topology : Topology) (ns : List Char) : Topology :=
  if topology.hasNode ns then
    { topology with nodes := topology.nodes.map fun node =>
        if node.name = ns then ⟨ns, []⟩ else node }
  else { topology with nodes := topology.nodes ++ [⟨ns, []⟩] }

/-- `del topology["nodes"][ns]`. -/
def Topology.delNode (topology : Topology) (ns : List Char) : Topology :=
  { topology with nodes := topology.nodes.filter fun node => node.name ≠ ns }

/-- The `ips` of a node are written, if there is such a node. -/
def Topology.mapIps (topology : Topology) (ns : List Char)
    (change : List (List Char) → List (List Char)) : Topology :=
  { topology with nodes := topology.nodes.map fun node =>
      if node.name = ns then { node with ips := change node.ips } else node }

/-- The list without an address. -/
def withoutIp (ip : List Char) (ips : List (List Char)) : List (List Char) :=
  ips.filter fun other => other ≠ ip

/-- `link in topology["links"]`. -/
def Topology.hasLink (topology : Topology) (wire : Wire) : Bool :=
  topology.links.any fun link => link.toWire = wire

/-- `topology["links"].append` of a link that is up. -/
def Topology.appendLink (topology : Topology) (wire : Wire) : Topology :=
  { topology with links := topology.links ++ [⟨wire, true⟩] }

/-- `topology["links"].remove(link)` of a link that is there. -/
def Topology.removeLink (topology : Topology) (wire : Wire) : Topology :=
  { topology with links := topology.links.eraseP fun link => link.toWire = wire }

/-- `link["up"] = not link["up"]`, which no longer shows if the link has been removed. -/
def Topology.flipLink (topology : Topology) (wire : Wire) : Topology :=
  { topology with links := topology.links.map fun link =>
      if link.toWire = wire then { link with up := !link.up } else link }

/-! ### Names and addresses -/

/-- `str.replace("ns-", "")`. -/
def withoutNs : List Char → List Char
  | 'n' :: 's' :: '-' :: rest => withoutNs rest
  | character :: rest => character :: withoutNs rest
  | [] => []

/-- `chr`; a surrogate is not a character here, and no name of a namespace either. -/
def chr (code : Nat) : Option Char := if code.isValidChar then some (.ofNat code) else none

/-- The name of a node that is added without one, unless computing it raises an exception. -/
def nextName (topology : Topology) : Option (List Char) :=
  match topology.nodes.getLast? with
  | none => some "ns-A".toList
  | some node => do
    let letter ← (withoutNs node.name).getLast?
    let next ← chr (letter.toNat + 1)
    return "ns-".toList ++ [next]

/-- `_link_ips`. -/
def linkIps (index : Nat) : List Char × List Char :=
  let high := index / 255
  let low := index % 255 + 1
  ("10.".toList ++ decimal high ++ ".".toList ++ decimal low ++ ".1".toList,
    "10.".toList ++ decimal high ++ ".".toList ++ decimal low ++ ".2".toList)

/-- `_veth_names`. -/
def vethNames (src dst : List Char) (index : Nat) : List Char × List Char :=
  let first := (withoutNs src).take 4
  let second := (withoutNs dst).take 4
  ("v".toList ++ first ++ second ++ decimal index ++ "s".toList,
    "v".toList ++ first ++ second ++ decimal index ++ "d".toList)

/-- The link that `add_link` makes, without its state. -/
def newWire (src dst : List Char) (index : Nat) : Wire where
  id := src ++ "--".toList ++ dst ++ "--".toList ++ decimal index
  src := src
  dst := dst
  vethSrc := (vethNames src dst index).1
  vethDst := (vethNames src dst index).2
  ipSrc := (linkIps index).1
  ipDst := (linkIps index).2

/-! ### Commands -/

/-- What `run_cmd` returns, its standard error apart. -/
structure Reply where
  stdout : List Char
  returncode : Int

/-- `_ns_exists`, from the output of `ip netns list`. -/
def nsExists (ns : List Char) (reply : Reply) : Bool :=
  (splitlines reply.stdout).any fun line => decide ((split line).head? = some ns)

/-- What `(\S+?)[@:]` finds after its first character. -/
def beforeMark : List Char → Option (List Char)
  | [] => none
  | character :: rest =>
    if character = '@' ∨ character = ':' then some []
    else if isSpace character then none
    else (beforeMark rest).map (character :: ·)

/-- The group of `\d+:\s+(\S+?)[@:]` in a line. -/
def ifaceOf (table : DigitTable) (line : List Char) : Option (List Char) := do
  let (_, rest) ← many1 table.isDecimal line
  let rest ← literal [':'] rest
  let (_, rest) ← many1 isSpace rest
  match rest with
  | [] => none
  | character :: rest => if isSpace character then none else (beforeMark rest).map (character :: ·)

/-- `_get_node_ifaces`, from the output of `ip -o link show`. -/
def nodeIfaces (table : DigitTable) (reply : Reply) : List (List Char) :=
  ((splitlines reply.stdout).filterMap (ifaceOf table)).filter fun iface => iface ≠ "lo".toList

/-! ### Tasks -/

/-- What `add_link` and `toggle_link` still have to do in a namespace: `_configure_nfqueue`, to
restore its routes, and `_configure_nfqueue` if it is enabled by then. -/
inductive Chore
  | configure (ns : List Char)
  | restore (ns : List Char)
  | reapply (ns : List Char)
  deriving DecidableEq, Repr

/-- A request that waits for a command.
 - `listing`, `adding`, `raising`: `add_node`, for `ip netns list`, `ip netns add` and
   `ip link set lo up`.
 - `unlinking`, `deleting`: `remove_node`, for `ip link del` of a link, with the links that come
   after it, and for `ip netns del`.
 - `wiring`: `add_link`, for a command of `_create_veth_link` after which others are left. Its
   names and addresses are those of `newWire`.
 - `detaching`: `remove_link`, for `ip link del`.
 - `toggling`: `toggle_link`, for the first or the second `ip link set`, to set the link up or
   down.
 - `cleaning`: `cleanup`, for `ip netns del`, with the nodes that come after.
 - `configuring`, `restoring`: `add_link` or `toggle_link`, for `ip -o link show`.
 - `commanding`: the same, for a command whose result is not looked at and after which others are
   left.
 - `reporting`: any request, for the `ip netns list` of `_build_topology_event`. -/
inductive Task
  | listing (ns : List Char)
  | adding (ns : List Char)
  | raising (ns : List Char)
  | unlinking (ns : List Char) (wire : Wire) (rest : List Wire)
  | deleting (ns : List Char)
  | wiring (src dst : List Char) (index left : Nat)
  | detaching (wire : Wire)
  | toggling (wire : Wire) (up : Bool) (left : Nat)
  | cleaning (rest : List (List Char))
  | configuring (ns : List Char) (later : List Chore)
  | restoring (ns : List Char) (later : List Chore)
  | commanding (ns : List Char) (left : Nat) (later : List Chore)
  | reporting
  deriving DecidableEq, Repr

/-- The task that does the chores. -/
def startChores (enabled : Bool) : List Chore → Task
  | [] => .reporting
  | .configure ns :: later => .configuring ns later
  | .restore ns :: later => .restoring ns later
  | .reapply ns :: later => if enabled then .configuring ns later else startChores enabled later

/-- The loop of `remove_node` over the links that touch the node. -/
def unlinkNext (ns : List Char) : List Wire → Task
  | [] => .deleting ns
  | wire :: rest => .unlinking ns wire rest

/-- The end of `add_node`. -/
def addNodeEnd (ns : List Char) (topology : Topology) : Topology × Option Task :=
  (topology.setNode ns, some .reporting)

/-- The body of the loop of `remove_node` after the link is down. -/
def removeNodeLoop (ns : List Char) (wire : Wire) (rest : List Wire) (topology : Topology) :
    Topology × Option Task :=
  if topology.hasLink wire then
    let topology := topology.removeLink wire
    let other := if wire.src = ns then wire.dst else wire.src
    let otherIp := if wire.src = ns then wire.ipDst else wire.ipSrc
    (topology.mapIps other (withoutIp otherIp), some (unlinkNext ns rest))
  else (topology, none)

/-- The end of `remove_node`. -/
def removeNodeEnd (ns : List Char) (topology : Topology) : Topology × Option Task :=
  if topology.hasNode ns then (topology.delNode ns, some .reporting) else (topology, none)

/-- The end of `add_link`. The link is in the list before the nodes are looked up again. -/
def addLinkEnd (wire : Wire) (topology : Topology) : Topology × Option Task :=
  let topology := topology.appendLink wire
  if topology.hasNode wire.src then
    let topology := topology.mapIps wire.src fun ips => ips ++ [wire.ipSrc]
    if topology.hasNode wire.dst then
      (topology.mapIps wire.dst fun ips => ips ++ [wire.ipDst],
        some (startChores topology.nfqueueEnabled
          (if topology.nfqueueEnabled then [.configure wire.src, .configure wire.dst] else [])))
    else (topology, none)
  else (topology, none)

/-- The end of `remove_link`. -/
def removeLinkEnd (wire : Wire) (topology : Topology) : Topology × Option Task :=
  if topology.hasLink wire then
    let topology := topology.removeLink wire
    let topology := topology.mapIps wire.src (withoutIp wire.ipSrc)
    (topology.mapIps wire.dst (withoutIp wire.ipDst), some .reporting)
  else (topology, none)

/-- The end of `toggle_link`. -/
def toggleLinkEnd (wire : Wire) (up : Bool) (topology : Topology) : Topology × Option Task :=
  (topology.flipLink wire, some (startChores topology.nfqueueEnabled
    (if up then [.restore wire.src, .restore wire.dst] else [])))

/-- The end of `cleanup`. -/
def cleanupEnd (topology : Topology) : Topology × Option Task :=
  ({ topology with nodes := [], links := [] }, some .reporting)

/-- A task runs on with what `run_cmd` has returned. -/
def resume (table : DigitTable) (task : Task) (reply : Reply) (topology : Topology) :
    Topology × Option Task :=
  match task with
  | .listing ns =>
    if nsExists ns reply then addNodeEnd ns topology else (topology, some (.adding ns))
  | .adding ns => (topology, if reply.returncode ≠ 0 then none else some (.raising ns))
  | .raising ns => addNodeEnd ns topology
  | .unlinking ns wire rest => removeNodeLoop ns wire rest topology
  | .deleting ns => removeNodeEnd ns topology
  | .wiring src dst index left =>
    -- the first three of the seven commands have to succeed
    if 4 ≤ left ∧ reply.returncode ≠ 0 then (topology, none)
    else
      match left with
      | 0 => addLinkEnd (newWire src dst index) topology
      | left + 1 => (topology, some (.wiring src dst index left))
  | .detaching wire => removeLinkEnd wire topology
  | .toggling wire up left =>
    match left with
    | 0 => toggleLinkEnd wire up topology
    | left + 1 => (topology, some (.toggling wire up left))
  | .cleaning rest =>
    match rest with
    | [] => cleanupEnd topology
    | _ :: rest => (topology, some (.cleaning rest))
  | .configuring ns later =>
    (topology, some (.commanding ns (if 1 < (nodeIfaces table reply).length then 4 else 3) later))
  | .restoring ns later =>
    (topology, some (if nodeIfaces table reply = [] then startChores topology.nfqueueEnabled later
      else .commanding ns 1 (.reapply ns :: later)))
  | .commanding ns left later =>
    match left with
    | 0 => (topology, some (startChores topology.nfqueueEnabled later))
    | left + 1 => (topology, some (.commanding ns left later))
  | .reporting => (topology, none)

/-! ### Requests -/

/-- The requests, with the fields that their bodies or paths carry; a name that is missing in the
body of `add_link` is empty. -/
inductive Request
  | addNode (name : Option (List Char))
  | removeNode (ns : List Char)
  | addLink (src dst : List Char)
  | removeLink (linkId : List Char)
  | toggleLink (linkId : List Char)
  | cleanup
  deriving DecidableEq, Repr

/-- The name that `add_node` works with. -/
def nodeName (name : Option (List Char)) (topology : Topology) : Option (List Char) :=
  match name with
  | none => nextName topology
  | some name => if strip name = [] then nextName topology else some (strip name)

/-- The links that end at a node. -/
def touching (ns : List Char) (topology : Topology) : List Wire :=
  (topology.links.map Link.toWire).filter fun wire => wire.src = ns ∨ wire.dst = ns

/-- `add_link`, up to its first command. -/
def addLink (src dst : List Char) (topology : Topology) : Topology × Option Task :=
  if src = [] ∨ dst = [] ∨ src = dst ∨ topology.hasNode src = false ∨
      topology.hasNode dst = false then
    (topology, none)
  else
    ({ topology with linkCounter := topology.linkCounter + 1 },
      some (.wiring src dst topology.linkCounter 6))

/-- A request runs up to its first command. -/
def start (request : Request) (topology : Topology) : Topology × Option Task :=
  match request with
  | .addNode name =>
    match nodeName name topology with
    | none => (topology, none)
    | some ns => if topology.hasNode ns then (topology, none) else (topology, some (.listing ns))
  | .removeNode ns =>
    if topology.hasNode ns then (topology, some (unlinkNext ns (touching ns topology)))
    else (topology, none)
  | .addLink src dst => addLink (strip src) (strip dst) topology
  | .removeLink linkId =>
    match topology.links.find? fun link => link.id = linkId with
    | none => (topology, none)
    | some link => (topology, some (.detaching link.toWire))
  | .toggleLink linkId =>
    match topology.links.find? fun link => link.id = linkId with
    | none => (topology, none)
    | some link => (topology, some (.toggling link.toWire (!link.up) 1))
  | .cleanup =>
    match topology.nodes with
    | [] => cleanupEnd topology
    | _ :: rest => (topology, some (.cleaning (rest.map Node.name)))

/-- The server. -/
def server (table : DigitTable) : Cooperation.System Topology Task Request Reply where
  start := start
  resume := resume table

abbrev Pool := Cooperation.Pool Topology Task

abbrev Input := Cooperation.Input Request Reply

/-- One input to the server. -/
def step (table : DigitTable) (pool : Pool) (input : Input) : Pool :=
  Cooperation.step (server table) pool input

/-- The server when it starts; whether NFQUEUE is enabled is decided elsewhere. -/
def initial (nfqueueEnabled : Bool) : Pool := ⟨⟨[], [], nfqueueEnabled, 0⟩, []⟩

/-- The server after a run. -/
def run (table : DigitTable) (nfqueueEnabled : Bool) (inputs : List Input) : Pool :=
  inputs.foldl (step table) (initial nfqueueEnabled)

end Aodvd.Dashboard

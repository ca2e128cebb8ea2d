/-
This file models the parts of `routing_table.c` that read the table or touch one entry
of it: the lookup with its two fast paths, the precursor lists, the entry timeouts, and
the two rtnetlink messages of `nl.c`.
-/

import Aodvd.State

namespace Aodvd

/-! ### Lookup -/

/-- `rt_table_init`. -/
def rtTableInit (state : State) : State :=
  { state with rtTbl := ⟨0, 0, fun _ => []⟩ }

/-- `rt_table_find`: nothing is searched while the entry count is zero, and an entry whose
cached hash differs is skipped. -/
def rtTableFind (state : State) (destAddr : Addr) : Option RtEntry :=
  if state.rtTbl.numEntries = 0 then none
  else (state.rtTbl.tbl (hashing destAddr).2).find? fun rt =>
    decide (rt.hash = (hashing destAddr).1) && decide (destAddr = rt.destAddr)

/-- The entries in the order in which the loops over all buckets visit them. -/
def rtEntries (state : State) : List RtEntry := ChainedTable.entries state.rtTbl.tbl

/-! ### Kernel routes -/

/-- `nl_send_add_route_msg`. -/
def nlSendAddRouteMsg (dest nextHop : Addr) (metric ifindex : Nat) (state : State) : State :=
  { state with kernel := state.kernel.newRoute dest metric ⟨nextHop, ifindex⟩ }

/-- `nl_send_del_route_msg`. -/
def nlSendDelRouteMsg (dest nextHop : Addr) (metric : Nat) (state : State) : State :=
  { state with kernel := state.kernel.delRoute dest metric nextHop }

/-! ### Precursors -/

/-- `precursor_add` on the entry itself. -/
def RtEntry.precursorAdd (addr : Addr) (rt : RtEntry) : RtEntry :=
  if addr ∈ rt.precursors then rt
  else { rt with precursors := addr :: rt.precursors, nprec := rt.nprec + 1 }

/-- `precursor_remove` on the entry itself. -/
def RtEntry.precursorRemove (addr : Addr) (rt : RtEntry) : RtEntry :=
  if addr ∈ rt.precursors then
    { rt with precursors := rt.precursors.erase addr, nprec := rt.nprec - 1 }
  else rt

/-- `precursor_list_destroy` on the entry itself. -/
def RtEntry.precursorListDestroy (rt : RtEntry) : RtEntry :=
  { rt with precursors := [], nprec := rt.nprec - rt.precursors.length }

def precursorAdd (dest addr : Addr) (state : State) : State :=
  setEntry dest (RtEntry.precursorAdd addr) state

def precursorRemove (dest addr : Addr) (state : State) : State :=
  setEntry dest (RtEntry.precursorRemove addr) state

def precursorListDestroy (dest : Addr) (state : State) : State :=
  setEntry dest RtEntry.precursorListDestroy state

/-! ### Entry timeouts -/

/-- `rt_table_update_timeout`: a valid entry keeps a later deadline it already has. -/
def rtTableUpdateTimeout (dest : Addr) (lifetime : Nat) (state : State) : State :=
  match entryAt state dest with
  | none => state
  | some rt =>
    if rt.state = .valid then
      if timevalDiff (timerTimeoutOf state (.rtTimer dest))
          (timevalAddMsec state.now lifetime) < 0 then
        setTimeout (.rtTimer dest) lifetime state
      else state
    else setTimeout (.rtTimer dest) lifetime state

/-- The part of `rt_table_update_route_timeouts` for one direction of a data packet. -/
def updateDirectionTimeouts (config : Config) (inet : Bool) (found : Option RtEntry)
    (state : State) : State :=
  match found with
  | none => state
  | some rt =>
    if rt.state = .valid then
      let heard := timerUsed state (.helloTimer rt.destAddr)
      let state :=
        if config.llfeedback || (inet && rt.flags.inetDest) || rt.hcnt != 1 || heard then
          rtTableUpdateTimeout rt.destAddr (activeRouteTimeout config) state
        else state
      match rtTableFind state rt.nextHop with
      | none => state
      | some nextHopRt =>
        if nextHopRt.state = .valid ∧ nextHopRt.destAddr ≠ rt.destAddr ∧
            (config.llfeedback || heard) = true then
          rtTableUpdateTimeout nextHopRt.destAddr (activeRouteTimeout config) state
        else state
    else state

/-- `rt_table_update_route_timeouts`. -/
def rtTableUpdateRouteTimeouts (config : Config) (fwdRt revRt : Option RtEntry) (state : State) :
    State :=
  updateDirectionTimeouts config false revRt (updateDirectionTimeouts config true fwdRt state)

end Aodvd

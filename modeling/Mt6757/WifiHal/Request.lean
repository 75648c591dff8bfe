import Mt6757.WifiHal.Registry

/-!
# Requests to the driver

`WifiRequest` assembles a netlink message of bounded capacity.  An attribute that
does not fit leaves the message as it is.
-/

set_option autoImplicit false

namespace Mt6757.WifiHal

/-- What a message holds, in order.  A nest is open until its `nestEnd`. -/
inductive NlItem where
  | attr (type : UInt16) (payload : Payload)
  | nestStart (type : UInt16)
  | nestEnd
  deriving DecidableEq, Repr

structure RequestMsg where
  capacity : Nat
  used : Nat
  items : List NlItem
  deriving DecidableEq, Repr

def nlaHdrlen : Nat := 4

/-- `nlmsghdr` and `genlmsghdr`. -/
def genlHdrlen : Nat := 20

def nlaAlign (length : Nat) : Nat := (length + 3) / 4 * 4

def nleNomem : Int := 5

namespace RequestMsg

def append (msg : RequestMsg) (length : Nat) (item : NlItem) : Option RequestMsg :=
  if msg.used + nlaAlign (nlaHdrlen + length) ≤ msg.capacity then
    some { msg with
      used := msg.used + nlaAlign (nlaHdrlen + length)
      items := msg.items ++ [item] }
  else none

def put (msg : RequestMsg) (type : UInt16) (payload : Payload) : Int × RequestMsg :=
  match msg.append payload.length (.attr type payload) with
  | some grown => (0, grown)
  | none => (-nleNomem, msg)

/-- `nla_nest_start`; false stands for a null pointer. -/
def nestStart (msg : RequestMsg) (type : UInt16) : Bool × RequestMsg :=
  match msg.append 0 (.nestStart type) with
  | some grown => (true, grown)
  | none => (false, msg)

def nestEnd (msg : RequestMsg) : RequestMsg := { msg with items := msg.items ++ [.nestEnd] }

end RequestMsg

def u32Bytes (value : UInt32) : Payload :=
  [value.toUInt8, (value >>> 8).toUInt8, (value >>> 16).toUInt8, (value >>> 24).toUInt8]

def RequestMsg.putU32 (msg : RequestMsg) (type : UInt16) (value : UInt32) : Int × RequestMsg :=
  msg.put type (u32Bytes value)

/-! ## Attributes of the kernel header -/

def nl80211AttrIfindex : UInt16 := 3
def nl80211AttrVendorId : UInt16 := 195
def nl80211AttrVendorSubcmd : UInt16 := 196
def nl80211AttrVendorData : UInt16 := 197

/-! ## `WifiRequest` -/

structure WifiRequest where
  mFamily : Int32
  mIface : Int32
  mMsg : Option RequestMsg
  deriving DecidableEq, Repr

/-- `WifiRequest::create(uint8_t)`; `alloc` is the capacity that `nlmsg_alloc` gives. -/
def WifiRequest.createCommand (request : WifiRequest) (alloc : Option Nat) :
    WifiError × WifiRequest :=
  match alloc with
  | some capacity => (wifiSuccess, { request with mMsg := some ⟨capacity, genlHdrlen, []⟩ })
  | none => (wifiErrorOutOfMemory, { request with mMsg := none })

/-- The attributes of a vendor command, as far as they fit. -/
def RequestMsg.putVendor (msg : RequestMsg) (iface : Int32) (id subcmd : UInt32) : Int × RequestMsg :=
  match msg.putU32 nl80211AttrVendorId id with
  | (result, msg) =>
      if result < 0 then (result, msg)
      else
        match msg.putU32 nl80211AttrVendorSubcmd subcmd with
        | (result, msg) =>
            if result < 0 then (result, msg)
            else if iface = -1 then (result, msg)
            else msg.putU32 nl80211AttrIfindex iface.toUInt32

/-- `WifiRequest::create(uint32_t, int)`. -/
def WifiRequest.create (request : WifiRequest) (alloc : Option Nat) (id subcmd : UInt32) :
    Int × WifiRequest :=
  match request.createCommand alloc with
  | (result, request) =>
      if result < 0 then (result, request)
      else
        match request.mMsg with
        | none => (result, request)
        | some msg =>
            match msg.putVendor request.mIface id subcmd with
            | (result, msg) => (result, { request with mMsg := some msg })

end Mt6757.WifiHal

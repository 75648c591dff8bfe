import Mt6757.WifiHal.Request

/-!
# Roaming capabilities and configurations

`wifi_get_roaming_capabilities` caches what the driver reported, clamped to the
arrays of a configuration; `wifi_configure_roaming` checks a configuration against
the cache, and its command indexes the arrays as far as it was told to.
-/

set_option autoImplicit false

namespace Mt6757.WifiHal.Roaming

/-- `MAX_BLACKLIST_BSSID` and `MAX_WHITELIST_SSID` of `wifi_hal.h`. -/
structure Limits where
  maxBlacklistBssid : UInt32
  maxWhitelistSsid : UInt32
  deriving DecidableEq, Repr

structure Capabilities where
  maxBlacklistSize : UInt32
  maxWhitelistSize : UInt32
  deriving DecidableEq, Repr

def Capabilities.zero : Capabilities := ⟨0, 0⟩

def Capabilities.store (caps : Capabilities) (i : Nat) (value : UInt32) : Capabilities :=
  match i with
  | 0 => { caps with maxBlacklistSize := value }
  | _ => { caps with maxWhitelistSize := value }

/-! ## The capabilities -/

def wifiAttributeRoamingCapabilities : UInt16 := 12

/-- An attribute as `nl_iterator` yields it: its type and its first word. -/
structure VendorAttr where
  type : UInt16
  value : UInt32
  deriving DecidableEq, Repr

structure CapabilityReply where
  cmd : Int32
  vendorDataLen : Nat
  vendorData : Option (List VendorAttr)
  deriving DecidableEq, Repr

def CapabilityReply.attrs (reply : CapabilityReply) : Option (List VendorAttr) :=
  if reply.cmd ≠ nl80211CmdVendor then none
  else if reply.vendorDataLen = 0 then none
  else reply.vendorData

variable (limits : Limits)

def Limits.max (limits : Limits) (i : Nat) : UInt32 :=
  match i with
  | 0 => limits.maxBlacklistBssid
  | _ => limits.maxWhitelistSsid

def setSizeMax : Nat := 2

def storeCapabilities : List VendorAttr → Nat → Capabilities → Capabilities
  | [], _, caps => caps
  | attr :: rest, i, caps =>
      if attr.type = wifiAttributeRoamingCapabilities ∧ i < setSizeMax then
        storeCapabilities rest (i + 1)
          (caps.store i (if attr.value > limits.max i then limits.max i else attr.value))
      else storeCapabilities rest i caps

def handleResponse (caps : Capabilities) (reply : CapabilityReply) : Capabilities :=
  match reply.attrs with
  | none => caps
  | some attrs => storeCapabilities limits attrs 0 caps

/-- What `requestResponse` returned and the replies it passed on, in order. -/
structure Exchange where
  result : WifiError
  replies : List CapabilityReply
  deriving DecidableEq, Repr

/-- `wifi_get_roaming_capabilities`: its result, the cache and the caller's buffer. -/
def wifiGetRoamingCapabilities (cached : Option Capabilities) (caps : Option Capabilities)
    (exchange : Exchange) : WifiError × Option Capabilities × Option Capabilities :=
  match caps with
  | none => (wifiErrorInvalidArgs, cached, none)
  | some caps =>
      match cached with
      | none => (wifiErrorInvalidArgs, none, some caps)
      | some cached =>
          if cached.maxBlacklistSize = 0 ∧ cached.maxWhitelistSize = 0 then
            let caps := exchange.replies.foldl (handleResponse limits) caps
            (exchange.result, some (if exchange.result = wifiSuccess then caps else cached),
              some caps)
          else (wifiSuccess, some cached, some cached)

/-! ## The configuration -/

def wifiErrorNotSupported : WifiError := -3

/-- `ssid_t`; the array is the memory from `ssid_str` on. -/
structure Ssid where
  length : UInt32
  ssidStr : Nat → UInt8

/-- `wifi_roaming_config`; the arrays are the memory from their starts on. -/
structure Config where
  numBlacklistBssid : UInt32
  blacklistBssid : Nat → Payload
  numWhitelistSsid : UInt32
  whitelistSsid : Nat → Ssid

inductive Access where
  | blacklistBssid (i : Nat)
  | whitelistSsid (i : Nat)
  | copySsid (length : Nat)
  | terminateSsid (i : Nat)
  deriving DecidableEq, Repr

def wifiAttributeRoamingBlacklistNum : UInt16 := 13
def wifiAttributeRoamingBlacklistBssid : UInt16 := 14
def wifiAttributeRoamingWhitelistNum : UInt16 := 15
def wifiAttributeRoamingWhitelistSsid : UInt16 := 16
def wifiSubcmdConfigRoaming : UInt32 := 0x000a

structure Encoding where
  msg : RequestMsg
  accesses : List Access

def putBlacklist (config : Config) : (left i : Nat) → Encoding → Int × Encoding
  | 0, _, encoding => (wifiSuccess, encoding)
  | left + 1, i, encoding =>
      match encoding.msg.put wifiAttributeRoamingBlacklistBssid (config.blacklistBssid i) with
      | (result, msg) =>
          let encoding := ⟨msg, encoding.accesses ++ [.blacklistBssid i]⟩
          if result < 0 then (result, encoding) else putBlacklist config left (i + 1) encoding

/-- The local buffer after the copy and the terminating NUL, as far as it is put. -/
def Ssid.payload (ssid : Ssid) : Payload :=
  ((List.range ssid.length.toNat).map ssid.ssidStr ++ [0]).take (ssid.length + 1).toNat

def putWhitelist (config : Config) : (left i : Nat) → Encoding → Int × Encoding
  | 0, _, encoding => (wifiSuccess, encoding)
  | left + 1, i, encoding =>
      let ssid := config.whitelistSsid i
      match encoding.msg.put wifiAttributeRoamingWhitelistSsid ssid.payload with
      | (result, msg) =>
          let encoding := ⟨msg, encoding.accesses ++
            [.whitelistSsid i, .copySsid ssid.length.toNat, .terminateSsid ssid.length.toNat]⟩
          if result < 0 then (result, encoding) else putWhitelist config left (i + 1) encoding

def putConfig (config : Config) (encoding : Encoding) : Int × Encoding :=
  let encoding := { encoding with msg := (encoding.msg.nestStart nl80211AttrVendorData).2 }
  match encoding.msg.putU32 wifiAttributeRoamingBlacklistNum config.numBlacklistBssid with
  | (result, msg) =>
      let encoding := { encoding with msg := msg }
      if result < 0 then (result, encoding)
      else
        match putBlacklist config config.numBlacklistBssid.toNat 0 encoding with
        | (result, encoding) =>
            if result < 0 then (result, encoding)
            else
              match encoding.msg.putU32 wifiAttributeRoamingWhitelistNum
                  config.numWhitelistSsid with
              | (result, msg) =>
                  let encoding := { encoding with msg := msg }
                  if result < 0 then (result, encoding)
                  else
                    match putWhitelist config config.numWhitelistSsid.toNat 0 encoding with
                    | (result, encoding) =>
                        if result < 0 then (result, encoding)
                        else (wifiSuccess, { encoding with msg := encoding.msg.nestEnd })

def createRequest (request : WifiRequest) (alloc : Option Nat) (config : Config) :
    Int × WifiRequest × List Access :=
  match request.create alloc googleOui wifiSubcmdConfigRoaming with
  | (result, request) =>
      if result < 0 then (result, request, [])
      else
        match request.mMsg with
        | none => (result, request, [])
        | some msg =>
            match putConfig config ⟨msg, []⟩ with
            | (result, encoding) =>
                (result, { request with mMsg := some encoding.msg }, encoding.accesses)

/-- The checks of `wifi_configure_roaming`: an error, or the configuration goes on to
`createRequest`. -/
def checkConfig (cached : Capabilities) (config : Option Config) : Except WifiError Config :=
  match config with
  | none => .error wifiErrorInvalidArgs
  | some config =>
      if config.numBlacklistBssid > cached.maxBlacklistSize then .error wifiErrorNotSupported
      else if config.numWhitelistSsid > cached.maxWhitelistSize then
        .error wifiErrorNotSupported
      else .ok config

/-- `wifi_configure_roaming`; `responded` is what `requestResponse` returns. -/
def wifiConfigureRoaming (cached : Capabilities) (config : Option Config)
    (request : WifiRequest) (alloc : Option Nat) (responded : WifiError) :
    WifiError × List Access :=
  match checkConfig cached config with
  | .error code => (code, [])
  | .ok config =>
      match createRequest request alloc config with
      | (result, _, accesses) =>
          if result ≠ wifiSuccess then (result, accesses) else (responded, accesses)

end Mt6757.WifiHal.Roaming

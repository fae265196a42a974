-- The Client Info PDU (info.c). The client tells the server who logs on and from where. The
-- first part has the strings of the logon, the extended part has the address, the directory,
-- the time zone and the cookie of the client.
import CorporateClient.StreamCodec
import CorporateClient.Unicode

namespace neutrinordp.info

open stream unicode

def ADDRESS_FAMILY_INET : Nat := 0x0002
def ADDRESS_FAMILY_INET6 : Nat := 0x0017

def INFO_MOUSE : Nat := 0x00000001
def INFO_DISABLECTRLALTDEL : Nat := 0x00000002
def INFO_AUTOLOGON : Nat := 0x00000008
def INFO_UNICODE : Nat := 0x00000010
def INFO_MAXIMIZESHELL : Nat := 0x00000020
def INFO_LOGONNOTIFY : Nat := 0x00000040
def INFO_COMPRESSION : Nat := 0x00000080
def INFO_ENABLEWINDOWSKEY : Nat := 0x00000100
def INFO_PACKET_COMPR_TYPE_64K : Nat := 0x00000200
def INFO_REMOTECONSOLEAUDIO : Nat := 0x00002000
def INFO_RAIL : Nat := 0x00008000
def INFO_LOGONERRORS : Nat := 0x00010000
def RNS_INFO_AUDIOCAPTURE : Nat := 0x00200000

/-! ## Settings -/

structure SYSTEM_TIME where
  wYear : UInt16
  wMonth : UInt16
  wDayOfWeek : UInt16
  wDay : UInt16
  wHour : UInt16
  wMinute : UInt16
  wSecond : UInt16
  wMilliseconds : UInt16
deriving Repr, DecidableEq

structure TIME_ZONE_INFO where
  bias : UInt32
  standardName : List UInt8
  standardDate : SYSTEM_TIME
  standardBias : UInt32
  daylightName : List UInt8
  daylightDate : SYSTEM_TIME
  daylightBias : UInt32
deriving Repr, DecidableEq

structure ARC_CS_PRIVATE_PACKET where
  cbLen : UInt32
  version : UInt32
  logonId : UInt32
  securityVerifier : Vector UInt8 16
deriving Repr, DecidableEq

/-- The settings that the PDU is about. A string that is not set is `none`. -/
structure rdpSettings where
  rdp_version : Nat
  autologon : Bool
  remote_app : Bool
  console_audio : Bool
  compression : Bool
  domain : Option (List UInt8)
  username : Option (List UInt8)
  password : Option (List UInt8)
  shell : Option (List UInt8)
  directory : Option (List UInt8)
  password_cookie : Option (List UInt8)
  ipv6 : Bool
  ip_address : Option (List UInt8)
  client_dir : Option (List UInt8)
  client_time_zone : TIME_ZONE_INFO
  performance_flags : UInt32
  client_auto_reconnect_cookie : ARC_CS_PRIVATE_PACKET
deriving Repr, DecidableEq

/-! ## Time zones -/

def rdp_read_system_time : Fallible SYSTEM_TIME := do
  let wYear ← stream_read_uint16
  let wMonth ← stream_read_uint16
  let wDayOfWeek ← stream_read_uint16
  let wDay ← stream_read_uint16
  let wHour ← stream_read_uint16
  let wMinute ← stream_read_uint16
  let wSecond ← stream_read_uint16
  let wMilliseconds ← stream_read_uint16
  return {
    wYear := .ofNat wYear, wMonth := .ofNat wMonth, wDayOfWeek := .ofNat wDayOfWeek
    wDay := .ofNat wDay, wHour := .ofNat wHour, wMinute := .ofNat wMinute
    wSecond := .ofNat wSecond, wMilliseconds := .ofNat wMilliseconds }

def rdp_write_system_time (system_time : SYSTEM_TIME) : Fallible PUnit := do
  modify (stream_write_uint16 · system_time.wYear.toNat)
  modify (stream_write_uint16 · system_time.wMonth.toNat)
  modify (stream_write_uint16 · system_time.wDayOfWeek.toNat)
  modify (stream_write_uint16 · system_time.wDay.toNat)
  modify (stream_write_uint16 · system_time.wHour.toNat)
  modify (stream_write_uint16 · system_time.wMinute.toNat)
  modify (stream_write_uint16 · system_time.wSecond.toNat)
  modify (stream_write_uint16 · system_time.wMilliseconds.toNat)

/-- What the system says about the local time: the bias, whether it is summer, and the two
names that `strftime` makes. -/
structure LocalTime where
  bias : UInt32
  tm_isdst : Bool
  standardName : List UInt8
  daylightName : List UInt8

/-- The names are cut to 31 bytes. The dates are left as they are. -/
def rdp_get_client_time_zone (local_time : LocalTime) (settings : rdpSettings) : rdpSettings :=
  let clientTimeZone := settings.client_time_zone
  { settings with client_time_zone := { clientTimeZone with
      bias := local_time.bias
      standardBias := if local_time.tm_isdst then local_time.bias - 60 else local_time.bias
      daylightBias := if local_time.tm_isdst then local_time.bias else local_time.bias + 60
      standardName := (cstr local_time.standardName).take 31
      daylightName := (cstr local_time.daylightName).take 31 } }

/-- `strncpy` takes at most the 32 bytes of the array. -/
def rdp_read_client_time_zone : Fallible TIME_ZONE_INFO := do
  require 172
  let bias ← stream_read_uint32
  let standardName ← stream_read 64
  let standardDate ← rdp_read_system_time
  let standardBias ← stream_read_uint32
  let daylightName ← stream_read 64
  let daylightDate ← rdp_read_system_time
  let daylightBias ← stream_read_uint32
  return {
    bias := .ofNat bias
    standardName := (cstr (uniconv_in standardName)).take 32
    standardDate := standardDate
    standardBias := .ofNat standardBias
    daylightName := (cstr (uniconv_in daylightName)).take 32
    daylightDate := daylightDate
    daylightBias := .ofNat daylightBias }

def write_zone_name (name : List UInt8) : Fallible PUnit := do
  let length := if name.length > 62 then 62 else name.length
  modify (stream_write · (name.take length))
  modify (stream_write · (List.replicate (64 - length) 0))

def rdp_write_client_time_zone (local_time : LocalTime) (settings : rdpSettings) :
    Fallible rdpSettings := do
  let settings := rdp_get_client_time_zone local_time settings
  let clientTimeZone := settings.client_time_zone
  let standardName ← freerdp_uniconv_out (some clientTimeZone.standardName)
  let daylightName ← freerdp_uniconv_out (some clientTimeZone.daylightName)
  modify (stream_write_uint32 · clientTimeZone.bias.toNat)
  write_zone_name standardName
  rdp_write_system_time clientTimeZone.standardDate
  modify (stream_write_uint32 · clientTimeZone.standardBias.toNat)
  write_zone_name daylightName
  rdp_write_system_time clientTimeZone.daylightDate
  modify (stream_write_uint32 · clientTimeZone.daylightBias.toNat)
  return settings

/-! ## The extended part -/

def rdp_write_client_auto_reconnect_cookie (settings : rdpSettings) : Fallible PUnit := do
  let autoReconnectCookie := settings.client_auto_reconnect_cookie
  modify (stream_write_uint32 · autoReconnectCookie.cbLen.toNat)
  modify (stream_write_uint32 · autoReconnectCookie.version.toNat)
  modify (stream_write_uint32 · autoReconnectCookie.logonId.toNat)
  modify (stream_write · autoReconnectCookie.securityVerifier.toList)

/-- The function of this name has the writes of the writer: it puts the cookie of the server
into the stream. -/
def rdp_read_client_auto_reconnect_cookie (settings : rdpSettings) : Fallible PUnit := do
  require 28
  let autoReconnectCookie := settings.client_auto_reconnect_cookie
  modify (stream_write_uint32 · autoReconnectCookie.cbLen.toNat)
  modify (stream_write_uint32 · autoReconnectCookie.version.toNat)
  modify (stream_write_uint32 · autoReconnectCookie.logonId.toNat)
  modify (stream_write · autoReconnectCookie.securityVerifier.toList)

def read_extended_string : Fallible (List UInt8) := do
  let length ← stream_read_uint16
  require length
  let str ← stream_read length
  return cstr (uniconv_in str)

def rdp_read_extended_info_packet (settings : rdpSettings) : Fallible rdpSettings := do
  let clientAddressFamily ← stream_read_uint16
  let ip_address ← read_extended_string
  let client_dir ← read_extended_string
  let client_time_zone ← rdp_read_client_time_zone
  stream_skip 4
  let performance_flags ← stream_read_uint32
  let cbAutoReconnectLen ← stream_read_uint16
  let settings := { settings with
    ipv6 := clientAddressFamily == ADDRESS_FAMILY_INET6
    ip_address := some ip_address
    client_dir := some client_dir
    client_time_zone
    performance_flags := .ofNat performance_flags }
  if cbAutoReconnectLen > 0 then do
    rdp_read_client_auto_reconnect_cookie settings
    return settings
  else return settings

/-- The bytes of a string, if there are any. -/
def write_text (cb : Nat) (text : List UInt8) : Fallible PUnit :=
  if cb > 0 then modify (stream_write · text) else pure ⟨⟩

def rdp_write_extended_info_packet (local_time : LocalTime) (settings : rdpSettings) :
    Fallible rdpSettings := do
  let clientAddressFamily := if settings.ipv6 then ADDRESS_FAMILY_INET6 else ADDRESS_FAMILY_INET
  let clientAddress ← freerdp_uniconv_out settings.ip_address
  let cbClientAddress := clientAddress.length % 65536
  let clientDir ← freerdp_uniconv_out settings.client_dir
  let cbClientDir := clientDir.length % 65536
  let cbAutoReconnectLen := settings.client_auto_reconnect_cookie.cbLen.toNat % 65536
  modify (stream_write_uint16 · clientAddressFamily)
  modify (stream_write_uint16 · (cbClientAddress + 2))
  write_text cbClientAddress (clientAddress.take cbClientAddress)
  modify (stream_write_uint16 · 0)
  modify (stream_write_uint16 · (cbClientDir + 2))
  write_text cbClientDir (clientDir.take cbClientDir)
  modify (stream_write_uint16 · 0)
  let settings ← rdp_write_client_time_zone local_time settings
  modify (stream_write_uint32 · 0)
  modify (stream_write_uint32 · settings.performance_flags.toNat)
  modify (stream_write_uint16 · cbAutoReconnectLen)
  if cbAutoReconnectLen > 0 then do
    rdp_write_client_auto_reconnect_cookie settings
    return settings
  else return settings

/-! ## The packet -/

def read_text (cb : Nat) (old : Option (List UInt8)) : Fallible (Option (List UInt8)) :=
  if cb > 0 then do
    let str ← stream_read cb
    return some (cstr (uniconv_in str))
  else return old

/-- A string of the first part. Its length does not count the final zero. -/
def read_info_string (cb : Nat) (old : Option (List UInt8)) : Fallible (Option (List UInt8)) := do
  require (cb + 2)
  let str ← read_text cb old
  stream_skip 2
  return str

def rdp_read_info_packet (settings : rdpSettings) : Fallible rdpSettings := do
  stream_skip 4
  let flags ← stream_read_uint32
  let cbDomain ← stream_read_uint16
  let cbUserName ← stream_read_uint16
  let cbPassword ← stream_read_uint16
  let cbAlternateShell ← stream_read_uint16
  let cbWorkingDir ← stream_read_uint16
  let domain ← read_info_string cbDomain settings.domain
  let username ← read_info_string cbUserName settings.username
  let password ← read_info_string cbPassword settings.password
  let shell ← read_info_string cbAlternateShell settings.shell
  let directory ← read_info_string cbWorkingDir settings.directory
  let settings := { settings with
    autologon := flags &&& INFO_AUTOLOGON != 0
    remote_app := flags &&& INFO_RAIL != 0
    console_audio := flags &&& INFO_REMOTECONSOLEAUDIO != 0
    compression := flags &&& INFO_COMPRESSION != 0
    domain, username, password, shell, directory }
  if settings.rdp_version ≥ 5 then rdp_read_extended_info_packet settings else return settings

def info_flags (settings : rdpSettings) : Nat :=
  let flags := INFO_MOUSE ||| INFO_UNICODE ||| INFO_LOGONERRORS ||| INFO_LOGONNOTIFY |||
    INFO_MAXIMIZESHELL ||| INFO_ENABLEWINDOWSKEY ||| INFO_DISABLECTRLALTDEL |||
    RNS_INFO_AUDIOCAPTURE
  let flags := if settings.autologon then flags ||| INFO_AUTOLOGON else flags
  let flags := if settings.remote_app then flags ||| INFO_RAIL else flags
  let flags := if settings.console_audio then flags ||| INFO_REMOTECONSOLEAUDIO else flags
  if settings.compression then flags ||| INFO_COMPRESSION ||| INFO_PACKET_COMPR_TYPE_64K else flags

/-- The password with the length that is written for it. A cookie goes out as it is, and its
last two bytes are not counted. -/
def password_text (settings : rdpSettings) : Option (Nat × List UInt8) :=
  let cookie := settings.password_cookie.getD []
  if cookie.length > 0 then some ((cookie.length + 65534) % 65536, cookie)
  else (freerdp_uniconv_out settings.password).map fun password =>
    (password.length % 65536, password)

def rdp_write_info_packet (local_time : LocalTime) (settings : rdpSettings) :
    Fallible rdpSettings := do
  let domain ← freerdp_uniconv_out settings.domain
  let cbDomain := domain.length % 65536
  let userName ← freerdp_uniconv_out settings.username
  let cbUserName := userName.length % 65536
  let (cbPassword, password) ← password_text settings
  let alternateShell ← freerdp_uniconv_out settings.shell
  let cbAlternateShell := alternateShell.length % 65536
  let workingDir ← freerdp_uniconv_out settings.directory
  let cbWorkingDir := workingDir.length % 65536
  modify (stream_write_uint32 · 0)
  modify (stream_write_uint32 · (info_flags settings))
  modify (stream_write_uint16 · cbDomain)
  modify (stream_write_uint16 · cbUserName)
  modify (stream_write_uint16 · cbPassword)
  modify (stream_write_uint16 · cbAlternateShell)
  modify (stream_write_uint16 · cbWorkingDir)
  write_text cbDomain (domain.take cbDomain)
  modify (stream_write_uint16 · 0)
  write_text cbUserName (userName.take cbUserName)
  modify (stream_write_uint16 · 0)
  -- All bytes of the password are written, not as many as its length says.
  write_text cbPassword password
  modify (stream_write_uint16 · 0)
  write_text cbAlternateShell (alternateShell.take cbAlternateShell)
  modify (stream_write_uint16 · 0)
  write_text cbWorkingDir (workingDir.take cbWorkingDir)
  modify (stream_write_uint16 · 0)
  if settings.rdp_version ≥ 5 then rdp_write_extended_info_packet local_time settings
  else return settings

end neutrinordp.info

-- The laws of the Client Info PDU: what is written, what the server reads from it, and when it
-- reads what the client has written.
import CorporateClient.ClientInfo

namespace neutrinordp.info

open List bytes stream unicode

/-- The text of a string of the settings. -/
def text (str : Option (List UInt8)) : List UInt8 := str.getD []

/-! ## What is written -/

def systemTimeBytes (t : SYSTEM_TIME) : List UInt8 :=
  le16 t.wYear.toNat ++ (le16 t.wMonth.toNat ++ (le16 t.wDayOfWeek.toNat ++
    (le16 t.wDay.toNat ++ (le16 t.wHour.toNat ++ (le16 t.wMinute.toNat ++
      (le16 t.wSecond.toNat ++ (le16 t.wMilliseconds.toNat ++ [])))))))

/-- A name with zeros behind it. -/
def zoneNameBytes (name : List UInt8) : List UInt8 :=
  widen name ++ replicate (64 - 2 * name.length) 0

def timeZoneBytes (zone : TIME_ZONE_INFO) : List UInt8 :=
  le32 zone.bias.toNat ++ (zoneNameBytes zone.standardName ++ (systemTimeBytes zone.standardDate ++
    (le32 zone.standardBias.toNat ++ (zoneNameBytes zone.daylightName ++
      (systemTimeBytes zone.daylightDate ++ (le32 zone.daylightBias.toNat ++ []))))))

def cookieBytes (cookie : ARC_CS_PRIVATE_PACKET) : List UInt8 :=
  le32 cookie.cbLen.toNat ++ (le32 cookie.version.toNat ++ (le32 cookie.logonId.toNat ++
    (cookie.securityVerifier.toList ++ [])))

/-- The cookie, if there is one. -/
def optionalCookieBytes (cookie : ARC_CS_PRIVATE_PACKET) : List UInt8 :=
  if cookie.cbLen.toNat % 65536 > 0 then cookieBytes cookie else []

/-- A string of the extended part with its length and its final zero. -/
def extendedStringBytes (str : List UInt8) : List UInt8 :=
  le16 (2 * str.length + 2) ++ ((widen str ++ le16 0) ++ [])

def familyOf (client : rdpSettings) : Nat :=
  if client.ipv6 then ADDRESS_FAMILY_INET6 else ADDRESS_FAMILY_INET

def extendedBytes (client : rdpSettings) : List UInt8 :=
  le16 (familyOf client) ++ (extendedStringBytes (text client.ip_address) ++
    (extendedStringBytes (text client.client_dir) ++ (timeZoneBytes client.client_time_zone ++
      (le32 0 ++ (le32 client.performance_flags.toNat ++
        (le16 (client.client_auto_reconnect_cookie.cbLen.toNat % 65536) ++
          optionalCookieBytes client.client_auto_reconnect_cookie))))))

/-- An ASCII string for a field with a length of 16 bits, and the bytes that are counted too. -/
structure FitsIn (more : Nat) (str : Option (List UInt8)) : Prop where
  ascii : Ascii (text str)
  short : 2 * (text str).length + more < 65536

theorem FitsIn.count {str : Option Bytes} (h : FitsIn 0 str) :
    2 * (text str).length % 65536 = 2 * (text str).length := Nat.mod_eq_of_lt h.short

theorem FitsIn.out {str : Option Bytes} {more : Nat} (h : FitsIn more str) :
    freerdp_uniconv_out str = some (widen (str.getD [])) :=
  freerdp_uniconv_out_ascii h.ascii (Nat.lt_of_le_of_lt (Nat.le_add_right _ more) h.short)

/-- The strings of the client are ASCII and fit their fields. -/
structure Fits (local_time : LocalTime) (client : rdpSettings) : Prop where
  domain : FitsIn 0 client.domain
  username : FitsIn 0 client.username
  password : FitsIn 0 client.password
  password_cookie : (text client.password_cookie).length < 65538
  shell : FitsIn 0 client.shell
  directory : FitsIn 0 client.directory
  ip_address : FitsIn 2 client.ip_address
  client_dir : FitsIn 2 client.client_dir
  standardName : Ascii (cstr local_time.standardName)
  daylightName : Ascii (cstr local_time.daylightName)

theorem emits_system_time (t : SYSTEM_TIME) :
    Emits (rdp_write_system_time t) (systemTimeBytes t) ⟨⟩ := by
  exact .uint16 <| .uint16 <| .uint16 <| .uint16 <| .uint16 <| .uint16 <| .uint16 <| fun _ _ => rfl

variable {client : rdpSettings} {str name : Bytes} {local_time : LocalTime}

theorem emits_zone_name (h : name.length ≤ 31) :
    Emits (write_zone_name (widen name)) (zoneNameBytes name) ⟨⟩ := by
  have hlength : (if (widen name).length > 62 then 62 else (widen name).length) =
      2 * name.length := by
    rw [length_widen, if_neg (by omega)]
  have htake : (widen name).take (2 * name.length) = widen name :=
    take_of_length_le (Nat.le_of_eq (length_widen name))
  unfold write_zone_name zoneNameBytes
  dsimp only
  rw [hlength, htake]
  exact .bytes fun _ _ => rfl

theorem emits_time_zone (h : Fits local_time client) :
    Emits (rdp_write_client_time_zone local_time client)
      (timeZoneBytes (rdp_get_client_time_zone local_time client).client_time_zone)
      (rdp_get_client_time_zone local_time client) := by
  have hstandard : Ascii ((cstr local_time.standardName).take 31) := ascii_take h.standardName 31
  have hdaylight : Ascii ((cstr local_time.daylightName).take 31) := ascii_take h.daylightName 31
  have hshort : ∀ name : Bytes, (name.take 31).length ≤ 31 := fun name =>
    length_take_le 31 name
  have hout : ∀ name : Bytes, Ascii (name.take 31) →
      freerdp_uniconv_out (some (name.take 31)) = some (widen (name.take 31)) := fun name hname =>
    freerdp_uniconv_out_ascii hname
      (Nat.lt_of_le_of_lt (Nat.mul_le_mul_left 2 (hshort name)) (by decide))
  exact .some (hout _ hstandard) <| .some (hout _ hdaylight) <|
    .uint32 <| .bind (emits_zone_name (hshort _)) <| .bind (emits_system_time _) <| .uint32 <|
    .bind (emits_zone_name (hshort _)) <| .bind (emits_system_time _) <| .uint32 <| .pure _

theorem emits_cookie (client : rdpSettings) :
    Emits (rdp_write_client_auto_reconnect_cookie client)
      (cookieBytes client.client_auto_reconnect_cookie) ⟨⟩ := by
  unfold rdp_write_client_auto_reconnect_cookie cookieBytes
  rw [append_nil]
  exact .uint32 <| .uint32 <| .uint32 <| fun _ _ => rfl

theorem emits_text (cb : Nat) (bs : Bytes) :
    Emits (write_text cb bs) (if cb > 0 then bs else []) ⟨⟩ := by
  unfold write_text
  split
  · exact fun _ _ => rfl
  · exact .pure _

theorem emits_string (h : 2 * str.length < 65536) :
    Emits (write_text ((widen str).length % 65536)
      ((widen str).take ((widen str).length % 65536))) (widen str) ⟨⟩ := by
  have hlength : (widen str).length % 65536 = (widen str).length := by
    rw [length_widen, Nat.mod_eq_of_lt h]
  have hwritten : (if (widen str).length > 0 then widen str else []) = widen str := by
    split
    · rfl
    · rename_i hempty
      exact (eq_nil_of_length_eq_zero (Nat.eq_zero_of_not_pos hempty)).symm
  have hemits := emits_text (widen str).length (widen str)
  rw [hwritten] at hemits
  rw [hlength, take_length]
  exact hemits

theorem emits_optional_cookie (client : rdpSettings) :
    Emits (if client.client_auto_reconnect_cookie.cbLen.toNat % 65536 > 0 then do
        rdp_write_client_auto_reconnect_cookie client
        return client
      else return client) (optionalCookieBytes client.client_auto_reconnect_cookie) client := by
  unfold optionalCookieBytes
  split
  · rw [← append_nil (cookieBytes _)]
    exact .bind (emits_cookie client) (.pure client)
  · exact .pure client

theorem emits_extended (h : Fits local_time client) :
    Emits (rdp_write_extended_info_packet local_time client)
      (extendedBytes (rdp_get_client_time_zone local_time client))
      (rdp_get_client_time_zone local_time client) := by
  have hip := h.ip_address
  have hdir := h.client_dir
  have hcount : ∀ {str : Option Bytes}, FitsIn 2 str →
      (widen (text str)).length % 65536 + 2 = 2 * (text str).length + 2 := by
    intro str hstr
    have hshort := hstr.short
    rw [length_widen]
    omega
  have hshort : ∀ {str : Option Bytes}, FitsIn 2 str → 2 * (text str).length < 65536 :=
    fun hstr => Nat.lt_of_le_of_lt (Nat.le_add_right _ 2) hstr.short
  unfold extendedBytes extendedStringBytes
  simp only [append_assoc, nil_append]
  refine .some hip.out <| .some hdir.out <| .uint16 ?_
  rw [show (widen (client.ip_address.getD [])).length % 65536 + 2 = _ from hcount hip,
    show (widen (client.client_dir.getD [])).length % 65536 + 2 = _ from hcount hdir]
  exact .uint16 <| .bind (emits_string (hshort hip)) <| .uint16 <| .uint16 <|
    .bind (emits_string (hshort hdir)) <| .uint16 <| .bind (emits_time_zone h) <| .uint32 <|
    .uint32 <| .uint16 <| emits_optional_cookie (rdp_get_client_time_zone local_time client)

/-! ### The first part -/

/-- The length of the password and its bytes, as they are written. -/
def passwordField (client : rdpSettings) : Nat × List UInt8 :=
  let cookie := text client.password_cookie
  if cookie.length > 0 then ((cookie.length + 65534) % 65536, cookie)
  else (2 * (text client.password).length, widen (text client.password))

def headBytes (client : rdpSettings) : List UInt8 :=
  le32 0 ++ (le32 (info_flags client) ++ (le16 (2 * (text client.domain).length) ++
    (le16 (2 * (text client.username).length) ++ (le16 (passwordField client).1 ++
      (le16 (2 * (text client.shell).length) ++ (le16 (2 * (text client.directory).length) ++
        []))))))

/-- A string of the first part with its final zero. -/
def stringBytes (str : List UInt8) : List UInt8 := widen str ++ (le16 0 ++ [])

def passwordBytes (client : rdpSettings) : List UInt8 :=
  (if (passwordField client).1 > 0 then (passwordField client).2 else []) ++ (le16 0 ++ [])

def infoBytes (client : rdpSettings) : List UInt8 :=
  headBytes client ++ (stringBytes (text client.domain) ++ (stringBytes (text client.username) ++
    (passwordBytes client ++ (stringBytes (text client.shell) ++
      (stringBytes (text client.directory) ++ extendedBytes client)))))

theorem password_text.spec (h : FitsIn 0 client.password) :
    password_text client = some (passwordField client) := by
  unfold password_text passwordField text
  dsimp only
  split
  · rfl
  · have hshort := h.short
    rw [h.out, Option.map_some, length_widen,
      Nat.mod_eq_of_lt (by unfold text at hshort; omega)]

theorem emits_info (h : Fits local_time client) (hversion : client.rdp_version ≥ 5) :
    Emits (rdp_write_info_packet local_time client)
      (infoBytes (rdp_get_client_time_zone local_time client))
      (rdp_get_client_time_zone local_time client) := by
  have hcount : ∀ {str : Option Bytes}, FitsIn 0 str →
      (widen (str.getD [])).length % 65536 = 2 * (text str).length := by
    intro str hstr
    rw [length_widen]
    exact hstr.count
  have hwrite : ∀ {str : Option Bytes}, FitsIn 0 str → Emits (write_text
      (2 * (text str).length) ((widen (str.getD [])).take (2 * (text str).length)))
      (widen (text str)) ⟨⟩ := by
    intro str hstr
    rw [← hcount hstr]
    exact emits_string hstr.short
  unfold infoBytes headBytes stringBytes passwordBytes
  simp only [append_assoc, nil_append]
  refine .some h.domain.out <| .some h.username.out <| .some (password_text.spec h.password) <|
    .some h.shell.out <| .some h.directory.out <| .uint32 <| .uint32 ?_
  rw [hcount h.domain, hcount h.username, hcount h.shell, hcount h.directory, if_pos hversion]
  exact .uint16 <| .uint16 <| .uint16 <| .uint16 <| .uint16 <| .bind (hwrite h.domain) <|
    .uint16 <| .bind (hwrite h.username) <| .uint16 <| .bind (emits_text _ _) <| .uint16 <|
    .bind (hwrite h.shell) <| .uint16 <| .bind (hwrite h.directory) <| .uint16 <|
    emits_extended h

/-! ## What is read -/

theorem accepts_system_time (t : SYSTEM_TIME) :
    Accepts rdp_read_system_time (systemTimeBytes t) t := by
  have hfield : ∀ x : UInt16, UInt16.ofNat (x.toNat % 65536) = x := by
    intro x
    rw [Nat.mod_eq_of_lt x.toNat_lt, UInt16.ofNat_toNat]
  refine .uint16 <| .uint16 <| .uint16 <| .uint16 <| .uint16 <| .uint16 <| .uint16 <| .uint16 <|
    .pure_eq ?_
  simp only [hfield]

theorem length_zoneNameBytes (h : name.length ≤ 31) : (zoneNameBytes name).length = 64 := by
  rw [zoneNameBytes, length_append, length_widen, length_replicate]
  omega

theorem zone_name_read (h : name.length ≤ 31) (hascii : Ascii name) :
    (cstr (uniconv_in (zoneNameBytes name))).take 32 = name := by
  obtain ⟨n, hn⟩ : ∃ n, 64 - 2 * name.length = n + 2 := ⟨62 - 2 * name.length, by omega⟩
  have hzero : zoneNameBytes name = widen name ++ 0 :: 0 :: replicate n 0 := by
    rw [zoneNameBytes, hn]
    rfl
  rw [hzero, cstr_in_widen_zero hascii, take_of_length_le (by omega)]

/-- The names of a zone are ASCII and leave room for a zero. -/
structure ZoneFits (zone : TIME_ZONE_INFO) : Prop where
  standard : zone.standardName.length ≤ 31
  standard_ascii : Ascii zone.standardName
  daylight : zone.daylightName.length ≤ 31
  daylight_ascii : Ascii zone.daylightName

theorem length_timeZoneBytes {zone : TIME_ZONE_INFO} (h : ZoneFits zone) :
    (timeZoneBytes zone).length = 172 := by
  simp only [timeZoneBytes, length_append, length_zoneNameBytes h.standard,
    length_zoneNameBytes h.daylight]
  rfl

theorem accepts_time_zone {zone : TIME_ZONE_INFO} (h : ZoneFits zone) :
    Accepts rdp_read_client_time_zone (timeZoneBytes zone) zone := by
  have hlength := length_timeZoneBytes h
  refine .require (by omega) ?_
  refine .uint32 <| .block (length_zoneNameBytes h.standard) <| .bind (accepts_system_time _) <|
    .uint32 <| .block (length_zoneNameBytes h.daylight) <| .bind (accepts_system_time _) <|
    .uint32 <| .pure_eq ?_
  simp [zone_name_read h.standard h.standard_ascii, zone_name_read h.daylight h.daylight_ascii]

theorem accepts_extended_string (hascii : Ascii str) (hshort : 2 * str.length + 2 < 65536) :
    Accepts read_extended_string (extendedStringBytes str) str := by
  have hlength : (widen str ++ le16 0).length = 2 * str.length + 2 := by simp
  refine .uint16 ?_
  rw [Nat.mod_eq_of_lt hshort]
  refine .require (by rw [append_nil, hlength]) <| .block hlength <| .pure_eq ?_
  exact cstr_in_widen_zero hascii []

theorem rest_write {s : STREAM} {a b rest : Bytes} (h : Rest s (a ++ rest))
    (hlength : b.length = a.length) : Rest (stream_write s b) rest := by
  have hroom : s.pos ≤ s.data.length := Nat.le_trans h.pos h.size
  have hseek := h.seek (n := b.length) hlength.symm
  refine ⟨?_, hseek.pos, ?_⟩
  · rw [← hseek.left]
    simp [STREAM.left, STREAM.bytes, stream_write, drop_take, drop_patch _ _ _ hroom]
  · show s.size ≤ (patch s.data s.pos b).length
    rw [length_patch _ _ _ hroom]
    have := h.size
    omega

theorem length_cookieBytes (cookie : ARC_CS_PRIVATE_PACKET) : (cookieBytes cookie).length = 28 := by
  simp [cookieBytes]

theorem accepts_cookie (server : rdpSettings) (cookie : ARC_CS_PRIVATE_PACKET) :
    Accepts (rdp_read_client_auto_reconnect_cookie server) (cookieBytes cookie) ⟨⟩ := by
  refine .require (Nat.le_of_eq (length_cookieBytes cookie).symm) ?_
  intro s rest hs
  have hwrite := emits_cookie server s (Nat.le_trans hs.pos hs.size)
  refine ⟨_, hwrite, rest_write hs ?_⟩
  rw [length_cookieBytes, length_cookieBytes]

theorem accepts_optional_cookie (server : rdpSettings) (cookie : ARC_CS_PRIVATE_PACKET) :
    Accepts (if cookie.cbLen.toNat % 65536 > 0 then do
        rdp_read_client_auto_reconnect_cookie server
        return server
      else return server) (optionalCookieBytes cookie) server := by
  unfold optionalCookieBytes
  split
  · rw [← append_nil (cookieBytes _)]
    exact .bind (accepts_cookie server cookie) (.pure server)
  · exact .pure server

/-- The settings of the server after the extended part. Its cookie is the old one. -/
def readExtended (client server : rdpSettings) : rdpSettings :=
  { server with
    ipv6 := client.ipv6
    ip_address := some (text client.ip_address)
    client_dir := some (text client.client_dir)
    client_time_zone := client.client_time_zone
    performance_flags := client.performance_flags }

/-- What the extended part of a client has to be like. -/
structure ExtendedFits (client : rdpSettings) : Prop where
  ip_address : FitsIn 2 client.ip_address
  client_dir : FitsIn 2 client.client_dir
  zone : ZoneFits client.client_time_zone

theorem accepts_extended (h : ExtendedFits client) (server : rdpSettings) :
    Accepts (rdp_read_extended_info_packet server) (extendedBytes client)
      (readExtended client server) := by
  have hfamily : (familyOf client % 65536 == ADDRESS_FAMILY_INET6) = client.ipv6 := by
    unfold familyOf
    cases client.ipv6
    · rfl
    · rfl
  refine .uint16 <| .bind (accepts_extended_string h.ip_address.ascii h.ip_address.short) <|
    .bind (accepts_extended_string h.client_dir.ascii h.client_dir.short) <|
    .bind (accepts_time_zone h.zone) <| .skip rfl <| .uint32 <| .uint16 ?_
  rw [Nat.mod_mod, hfamily, uint32_read]
  exact accepts_optional_cookie _ client.client_auto_reconnect_cookie

/-! ### The first part -/

/-- A string that was read, or the old one. -/
def readString (str : List UInt8) (old : Option (List UInt8)) : Option (List UInt8) :=
  if str.length > 0 then some str else old

theorem accepts_text (hascii : Ascii str) (old : Option Bytes) :
    Accepts (read_text (2 * str.length) old) (widen str) (readString str old) := by
  unfold read_text readString
  by_cases hempty : str.length > 0
  · rw [if_pos hempty, if_pos (by omega), ← append_nil (widen str)]
    refine .block (length_widen str) <| .pure_eq ?_
    rw [cstr_in_widen hascii]
  · rw [if_neg hempty, if_neg (by omega),
      eq_nil_of_length_eq_zero (Nat.eq_zero_of_not_pos hempty)]
    exact .pure old

theorem accepts_string (hascii : Ascii str) (old : Option Bytes) :
    Accepts (read_info_string (2 * str.length) old) (stringBytes str) (readString str old) := by
  unfold read_info_string stringBytes
  exact .require (by simp) <| (accepts_text hascii old).bind <| .skip rfl <| .pure _

/-- The password that the client sends. A cookie is a password on the wire with its final
zero. -/
def passwordOf (client : rdpSettings) : List UInt8 :=
  let cookie := text client.password_cookie
  if cookie.length > 0 then cstr (uniconv_in (cookie.take (cookie.length - 2)))
  else text client.password

/-- The strings of the first part, with a password that is written as it is counted. -/
structure HeadFits (client : rdpSettings) : Prop where
  domain : FitsIn 0 client.domain
  username : FitsIn 0 client.username
  password : FitsIn 0 client.password
  cookie : (text client.password_cookie).length = 0 ∨ (text client.password_cookie).length = 2
  shell : FitsIn 0 client.shell
  directory : FitsIn 0 client.directory

theorem passwordOf_cases
    (h : (text client.password_cookie).length = 0 ∨ (text client.password_cookie).length = 2) :
    (passwordOf client = text client.password ∧ passwordField client =
      (2 * (text client.password).length, widen (text client.password))) ∨
    (passwordOf client = [] ∧ (passwordField client).1 = 0) := by
  unfold passwordOf passwordField
  rcases h with h | h
  · rw [if_neg (by omega), if_neg (by omega)]
    exact .inl ⟨rfl, rfl⟩
  · rw [if_pos (by omega), if_pos (by omega), h]
    exact .inr ⟨rfl, rfl⟩

theorem HeadFits.ascii_password (h : HeadFits client) : Ascii (passwordOf client) := by
  rcases passwordOf_cases h.cookie with ⟨hpassword, _⟩ | ⟨hpassword, _⟩
  · rw [hpassword]
    exact h.password.ascii
  · rw [hpassword]
    exact fun b hb => nomatch hb

theorem HeadFits.password_length (h : HeadFits client) :
    (passwordField client).1 = 2 * (passwordOf client).length ∧
      2 * (passwordOf client).length < 65536 := by
  rcases passwordOf_cases h.cookie with ⟨hpassword, hfield⟩ | ⟨hpassword, hfield⟩
  · rw [hpassword, hfield]
    exact ⟨rfl, h.password.short⟩
  · rw [hpassword, hfield]
    decide

theorem HeadFits.passwordBytes_eq (h : HeadFits client) :
    passwordBytes client = stringBytes (passwordOf client) := by
  unfold passwordBytes stringBytes
  rcases passwordOf_cases h.cookie with ⟨hpassword, hfield⟩ | ⟨hpassword, hfield⟩
  · rw [hpassword, hfield]
    split
    · rfl
    · rename_i hempty
      rw [eq_nil_of_length_eq_zero (l := text client.password) (by omega)]
      rfl
  · rw [hpassword, hfield]
    rfl

/-- The settings of the server after the packet. -/
def readInfo (client server : rdpSettings) : rdpSettings :=
  readExtended client { server with
    autologon := client.autologon
    remote_app := client.remote_app
    console_audio := client.console_audio
    compression := client.compression
    domain := readString (text client.domain) server.domain
    username := readString (text client.username) server.username
    password := readString (passwordOf client) server.password
    shell := readString (text client.shell) server.shell
    directory := readString (text client.directory) server.directory }

theorem flags_read (client : rdpSettings) :
    (info_flags client % 4294967296 &&& INFO_AUTOLOGON != 0) = client.autologon ∧
    (info_flags client % 4294967296 &&& INFO_RAIL != 0) = client.remote_app ∧
    (info_flags client % 4294967296 &&& INFO_REMOTECONSOLEAUDIO != 0) = client.console_audio ∧
    (info_flags client % 4294967296 &&& INFO_COMPRESSION != 0) = client.compression := by
  unfold info_flags
  cases client.autologon <;> cases client.remote_app <;> cases client.console_audio <;>
    cases client.compression <;> decide

theorem accepts_info (hhead : HeadFits client) (hextended : ExtendedFits client)
    {server : rdpSettings} (hversion : server.rdp_version ≥ 5) :
    Accepts (rdp_read_info_packet server) (infoBytes client) (readInfo client server) := by
  obtain ⟨hlength, hshort⟩ := hhead.password_length
  obtain ⟨hautologon, hrail, haudio, hcompression⟩ := flags_read client
  unfold infoBytes headBytes
  rw [hhead.passwordBytes_eq]
  simp only [append_assoc, nil_append]
  refine .skip rfl <| .uint32 <| .uint16 <| .uint16 <| .uint16 <| .uint16 <| .uint16 ?_
  rw [hhead.domain.count, hhead.username.count, hlength, Nat.mod_eq_of_lt hshort,
    hhead.shell.count, hhead.directory.count]
  refine .bind (accepts_string hhead.domain.ascii _) <|
    .bind (accepts_string hhead.username.ascii _) <|
    .bind (accepts_string hhead.ascii_password _) <|
    .bind (accepts_string hhead.shell.ascii _) <|
    .bind (accepts_string hhead.directory.ascii _) ?_
  rw [if_pos hversion, hautologon, hrail, haudio, hcompression]
  exact accepts_extended hextended _

end neutrinordp.info

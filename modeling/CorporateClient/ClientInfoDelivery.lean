-- When the Client Info PDU arrives. A password cookie shifts the fields behind it, and the
-- auto-reconnect cookie is never taken. Without the two the server reads what the client has
-- written.
import CorporateClient.ClientInfoLaws

namespace neutrinordp.info

open List bytes codec stream unicode

/-! ## Runs of the reader

Whatever the bytes are, the reader goes forward by the lengths that it has read. -/

theorem forward_system_time : Forward rdp_read_system_time 16 :=
  .uint16 fun _ => .uint16 fun _ => .uint16 fun _ => .uint16 fun _ => .uint16 fun _ =>
    .uint16 fun _ => .uint16 fun _ => .uint16 fun _ => .pure _

theorem forward_time_zone : Forward rdp_read_client_time_zone 172 :=
  .require fun _ => .uint32 fun _ => .block fun _ => .bind forward_system_time fun _ =>
    .uint32 fun _ => .block fun _ => .bind forward_system_time fun _ => .uint32 fun _ => .pure _

theorem forward_text (cb : Nat) (old : Option Bytes) : Forward (read_text cb old) cb := by
  unfold read_text
  split
  · exact .block fun _ => .pure _
  · rename_i hzero
    rw [Nat.eq_zero_of_not_pos hzero]
    exact .pure old

theorem forward_info_string (cb : Nat) (old : Option Bytes) :
    Forward (read_info_string cb old) (cb + 2) :=
  .require fun _ => .bind (forward_text cb old) fun _ => .skip fun _ => .pure _

theorem bytes_at_seek (s : STREAM) (k i n : Nat) :
    bytes_at (stream_seek s k) i n = bytes_at s i n := rfl

/-- The length of a string of the extended part. -/
def lengthAt (s : STREAM) : Nat := (stream_read_uint16 s).1

variable {client server server' : rdpSettings} {local_time : LocalTime} {s s' : STREAM}

theorem read_extended_string_some {v : Bytes} (h : read_extended_string s = some (v, s')) :
    v = cstr (uniconv_in (bytes_at s (s.pos + 2) (lengthAt s))) ∧
      s' = stream_seek s (2 + lengthAt s) := by
  obtain ⟨length, s1, hlength, hrest⟩ := fallible_bind_some h
  have hlength : (lengthAt s, stream_seek s 2) = (length, s1) := lift_some hlength
  cases hlength
  obtain ⟨_, s2, hcheck, hstr⟩ := fallible_bind_some hrest
  rw [require_some hcheck] at hstr
  have hread : (cstr (uniconv_in (bytes_at s (s.pos + 2) (lengthAt s))),
      stream_seek (stream_seek s 2) (lengthAt s)) = (v, s') := Option.some.inj hstr
  cases hread
  exact ⟨rfl, by simp [stream_seek, Nat.add_assoc]⟩

theorem read_cookie_some {v : PUnit}
    (h : rdp_read_client_auto_reconnect_cookie server s = some (v, s')) :
    s'.pos = s.pos + 28 ∧ s'.size = s.size := by
  obtain ⟨_, s1, hcheck, hwrite⟩ := fallible_bind_some h
  rw [require_some hcheck] at hwrite
  cases hwrite
  refine ⟨?_, rfl⟩
  simp [stream_write_uint32, stream_write, Nat.add_assoc]

/-- A run of the reader of the extended part: which strings it has found, and where it has
stopped. -/
structure ExtendedRun (server' : rdpSettings) (s s' : STREAM) : Prop where
  ipv6 : server'.ipv6 = (lengthAt s == ADDRESS_FAMILY_INET6)
  ip_address : text server'.ip_address =
    cstr (uniconv_in (bytes_at s (s.pos + 4) (lengthAt (stream_seek s 2))))
  client_dir : ∃ dir, dir = stream_seek s (4 + lengthAt (stream_seek s 2)) ∧
    text server'.client_dir = cstr (uniconv_in (bytes_at s (dir.pos + 2) (lengthAt dir))) ∧
    ∃ cookie : Nat, s'.pos = dir.pos + lengthAt dir + 184 + 28 * cookie ∧ s'.size = s.size

theorem rdp_read_extended_info_packet_some
    (h : rdp_read_extended_info_packet server s = some (server', s')) :
    ExtendedRun server' s s' := by
  obtain ⟨family, s1, hfamily, h1⟩ := fallible_bind_some h
  obtain ⟨ip, s2, hip, h2⟩ := fallible_bind_some h1
  obtain ⟨dir, s3, hdir, h3⟩ := fallible_bind_some h2
  obtain ⟨zone, s4, hzone, h4⟩ := fallible_bind_some h3
  obtain ⟨_, s5, hskip, h5⟩ := fallible_bind_some h4
  obtain ⟨flags, s6, hflags, h6⟩ := fallible_bind_some h5
  obtain ⟨cbLen, s7, hcbLen, h7⟩ := fallible_bind_some h6
  have hs1 : s1 = stream_seek s 2 := (congrArg Prod.snd (lift_some hfamily)).symm
  have hfamily : lengthAt s = family := congrArg Prod.fst (lift_some hfamily)
  obtain ⟨hip, hs2⟩ := read_extended_string_some hip
  obtain ⟨hdir, hs3⟩ := read_extended_string_some hdir
  have hs4 := forward_time_zone _ _ _ hzone
  have hs5 : s5 = stream_seek s4 4 := (congrArg Prod.snd (lift_some hskip)).symm
  have hs6 : s6 = stream_seek s5 4 := (congrArg Prod.snd (lift_some hflags)).symm
  have hs7 : s7 = stream_seek s6 2 := (congrArg Prod.snd (lift_some hcbLen)).symm
  have hdirpos : s2 = stream_seek s (4 + lengthAt (stream_seek s 2)) := by
    rw [hs2, hs1]
    simp [stream_seek, Nat.add_assoc]
    omega
  have hpos : s7.pos = s2.pos + lengthAt s2 + 184 := by
    rw [hs7, hs6, hs5, hs4, hs3]
    simp only [stream_seek_pos]
    omega
  have hsize : s7.size = s.size := by
    rw [hs7, hs6, hs5, hs4, hs3, hs2, hs1]
    simp
  have hdata : ∀ i n, bytes_at s2 i n = bytes_at s i n := by
    intro i n
    rw [hdirpos]
    exact bytes_at_seek s _ i n
  -- What the settings are, and how far the cookie goes.
  have hend : ∃ cookie : Nat, s'.pos = s7.pos + 28 * cookie ∧ s'.size = s7.size ∧
      server'.ipv6 = (family == ADDRESS_FAMILY_INET6) ∧ server'.ip_address = some ip ∧
      server'.client_dir = some dir := by
    split at h7
    · obtain ⟨_, s8, hcookie, h8⟩ := fallible_bind_some h7
      obtain ⟨hcookiePos, hcookieSize⟩ := read_cookie_some hcookie
      cases h8
      exact ⟨1, hcookiePos, hcookieSize, rfl, rfl, rfl⟩
    · cases h7
      exact ⟨0, rfl, rfl, rfl, rfl, rfl⟩
  obtain ⟨cookie, hpos', hsize', hipv6, hipAddress, hclientDir⟩ := hend
  rw [hs1] at hip
  refine ⟨?_, ?_, s2, hdirpos, ?_, cookie, ?_, ?_⟩
  · rw [hipv6, hfamily]
  · rw [hipAddress]
    exact hip
  · rw [hclientDir, ← hdata]
    exact hdir
  · rw [hpos', hpos]
  · rw [hsize', hsize]

/-- The fields in front of the strings. -/
structure InfoHead where
  flags : Nat
  cbDomain : Nat
  cbUserName : Nat
  cbPassword : Nat
  cbAlternateShell : Nat
  cbWorkingDir : Nat

def readHead : StateM STREAM InfoHead := do
  stream_skip 4
  let flags ← stream_read_uint32
  let cbDomain ← stream_read_uint16
  let cbUserName ← stream_read_uint16
  let cbPassword ← stream_read_uint16
  let cbAlternateShell ← stream_read_uint16
  let cbWorkingDir ← stream_read_uint16
  return { flags, cbDomain, cbUserName, cbPassword, cbAlternateShell, cbWorkingDir }

theorem rdp_read_info_packet_some (hversion : server.rdp_version ≥ 5) {s0 : STREAM}
    {head : InfoHead} (hhead : readHead s = (head, s0))
    (h : rdp_read_info_packet server s = some (server', s')) :
    ∃ server1, rdp_read_extended_info_packet server1 (stream_seek s0
      (head.cbDomain + 2 + (head.cbUserName + 2) + (head.cbPassword + 2) +
        (head.cbAlternateShell + 2) + (head.cbWorkingDir + 2))) = some (server', s') := by
  obtain ⟨_, t1, hskip, h1⟩ := fallible_bind_some h
  obtain ⟨flags, t2, hflags, h2⟩ := fallible_bind_some h1
  obtain ⟨cbDomain, t3, hcbDomain, h3⟩ := fallible_bind_some h2
  obtain ⟨cbUserName, t4, hcbUserName, h4⟩ := fallible_bind_some h3
  obtain ⟨cbPassword, t5, hcbPassword, h5⟩ := fallible_bind_some h4
  obtain ⟨cbAlternateShell, t6, hcbAlternateShell, h6⟩ := fallible_bind_some h5
  obtain ⟨cbWorkingDir, t7, hcbWorkingDir, h7⟩ := fallible_bind_some h6
  have hrun : readHead s = (⟨flags, cbDomain, cbUserName, cbPassword, cbAlternateShell,
      cbWorkingDir⟩, t7) := by
    unfold readHead
    rw [run_bind (lift_some hskip), run_bind (lift_some hflags), run_bind (lift_some hcbDomain),
      run_bind (lift_some hcbUserName), run_bind (lift_some hcbPassword),
      run_bind (lift_some hcbAlternateShell), run_bind (lift_some hcbWorkingDir)]
    rfl
  rw [hhead] at hrun
  cases hrun
  obtain ⟨domain, u1, hdomain, h8⟩ := fallible_bind_some h7
  obtain ⟨username, u2, husername, h9⟩ := fallible_bind_some h8
  obtain ⟨password, u3, hpassword, h10⟩ := fallible_bind_some h9
  obtain ⟨shell, u4, hshell, h11⟩ := fallible_bind_some h10
  obtain ⟨directory, u5, hdirectory, h12⟩ := fallible_bind_some h11
  have hu1 := forward_info_string _ _ _ _ _ hdomain
  have hu2 := forward_info_string _ _ _ _ _ husername
  have hu3 := forward_info_string _ _ _ _ _ hpassword
  have hu4 := forward_info_string _ _ _ _ _ hshell
  have hu5 := forward_info_string _ _ _ _ _ hdirectory
  have hu : u5 = stream_seek s0 (cbDomain + 2 + (cbUserName + 2) + (cbPassword + 2) +
      (cbAlternateShell + 2) + (cbWorkingDir + 2)) := by
    rw [hu5, hu4, hu3, hu2, hu1]
    simp [stream_seek, Nat.add_assoc]
  rw [← hu]
  rw [if_pos hversion] at h12
  exact ⟨_, h12⟩

theorem passwordField_lt (h : FitsIn 0 client.password) : (passwordField client).1 < 65536 := by
  unfold passwordField
  dsimp only
  split
  · exact Nat.mod_lt _ (by decide)
  · exact h.short

theorem takes_head (h : Fits local_time client) :
    Takes readHead (headBytes client) {
      flags := info_flags client % 4294967296
      cbDomain := 2 * (text client.domain).length
      cbUserName := 2 * (text client.username).length
      cbPassword := (passwordField client).1
      cbAlternateShell := 2 * (text client.shell).length
      cbWorkingDir := 2 * (text client.directory).length } := by
  refine .skip rfl <| .uint32 <| .uint16 <| .uint16 <| .uint16 <| .uint16 <| .uint16 <| .pure_eq ?_
  rw [h.domain.count, h.username.count, Nat.mod_eq_of_lt (passwordField_lt h.password),
    h.shell.count, h.directory.count]

/-! ## Delivery -/

/-- The server knows what the client has sent. A string that is not set is an empty one. -/
structure Recovered (client server' : rdpSettings) : Prop where
  autologon : server'.autologon = client.autologon
  remote_app : server'.remote_app = client.remote_app
  console_audio : server'.console_audio = client.console_audio
  compression : server'.compression = client.compression
  domain : text server'.domain = text client.domain
  username : text server'.username = text client.username
  password : text server'.password = passwordOf client
  shell : text server'.shell = text client.shell
  directory : text server'.directory = text client.directory
  ipv6 : server'.ipv6 = client.ipv6
  ip_address : text server'.ip_address = text client.ip_address
  client_dir : text server'.client_dir = text client.client_dir
  client_time_zone : server'.client_time_zone = client.client_time_zone
  performance_flags : server'.performance_flags = client.performance_flags
  client_auto_reconnect_cookie : client.client_auto_reconnect_cookie.cbLen ≠ 0 →
    server'.client_auto_reconnect_cookie = client.client_auto_reconnect_cookie

/-- The server takes the packet and no byte behind it, and knows what was sent. -/
def Delivered (client server : rdpSettings) : Prop :=
  ∀ r tail, Rest r (infoBytes client ++ tail) → ∃ server' r',
    rdp_read_info_packet server r = some (server', r') ∧ Rest r' tail ∧ Recovered client server'

/-- No cookies. A string that the client does not have must not be there from before. -/
structure Recoverable (client server : rdpSettings) : Prop where
  password_cookie :
    (text client.password_cookie).length = 0 ∨ (text client.password_cookie).length = 2
  auto_reconnect_cookie : client.client_auto_reconnect_cookie.cbLen = 0 ∨
    server.client_auto_reconnect_cookie = client.client_auto_reconnect_cookie
  domain : text client.domain = [] → text server.domain = []
  username : text client.username = [] → text server.username = []
  password : passwordOf client = [] → text server.password = []
  shell : text client.shell = [] → text server.shell = []
  directory : text client.directory = [] → text server.directory = []

theorem Fits.sent (h : Fits local_time client) :
    Fits local_time (rdp_get_client_time_zone local_time client) :=
  ⟨h.domain, h.username, h.password, h.password_cookie, h.shell, h.directory, h.ip_address,
    h.client_dir, h.standardName, h.daylightName⟩

theorem Fits.extended (h : Fits local_time client) :
    ExtendedFits (rdp_get_client_time_zone local_time client) :=
  ⟨h.ip_address, h.client_dir, length_take_le 31 _, ascii_take h.standardName 31,
    length_take_le 31 _, ascii_take h.daylightName 31⟩

theorem Fits.head (h : Fits local_time client)
    (hcookie : (text client.password_cookie).length = 0 ∨
      (text client.password_cookie).length = 2) :
    HeadFits client :=
  ⟨h.domain, h.username, h.password, hcookie, h.shell, h.directory⟩

theorem text_readString (str : Bytes) (old : Option Bytes) :
    text (readString str old) = str ↔ (str = [] → text old = []) := by
  unfold readString
  cases str with
  | nil => simp
  | cons b str => simp [text]

theorem readInfo_recovered (client server : rdpSettings) (hcookie :
    (text client.password_cookie).length = 0 ∨ (text client.password_cookie).length = 2) :
    Recovered client (readInfo client server) ↔ Recoverable client server := by
  constructor
  · intro h
    refine ⟨hcookie, ?_, (text_readString _ _).mp h.domain, (text_readString _ _).mp h.username,
      (text_readString _ _).mp h.password, (text_readString _ _).mp h.shell,
      (text_readString _ _).mp h.directory⟩
    by_cases hlen : client.client_auto_reconnect_cookie.cbLen = 0
    · exact .inl hlen
    · exact .inr (h.client_auto_reconnect_cookie hlen)
  · intro h
    exact ⟨rfl, rfl, rfl, rfl, (text_readString _ _).mpr h.domain,
      (text_readString _ _).mpr h.username, (text_readString _ _).mpr h.password,
      (text_readString _ _).mpr h.shell, (text_readString _ _).mpr h.directory, rfl, rfl, rfl,
      rfl, rfl, fun hlen => h.auto_reconnect_cookie.resolve_left hlen⟩

/-! ### A password cookie -/

theorem lengthAt_eq {v : Nat} {rest : Bytes} (h : Rest s (le16 v ++ rest)) :
    lengthAt s = v % 65536 := by
  obtain ⟨s', hread, _⟩ := reads_uint16 v s rest h
  exact congrArg Prod.fst hread

theorem bytes_ahead {a rest : Bytes} (h : Rest s (a ++ rest)) :
    bytes_at s s.pos a.length = a := by
  rw [bytes_at_left s _ (by rw [h.left, length_append]; omega), h.left, take_left' rfl]

theorem length_as_string {str : Bytes} (hascii : Ascii str)
    (hshort : 2 * str.length + 2 < 65536)
    (h : str = cstr (uniconv_in (le16 (2 * str.length + 2)))) : str = [4] := by
  generalize hv : 2 * str.length + 2 = v at h hshort
  have hle : le16 v = [UInt8.ofNat v, UInt8.ofNat (v >>> 8)] := rfl
  rw [hle] at h
  by_cases hunit : UInt8.ofNat v < 128 ∧ UInt8.ofNat (v >>> 8) = 0
  · obtain ⟨hlow, hhigh⟩ := hunit
    have hsmall : v < 256 := by
      have hzero := congrArg UInt8.toNat hhigh
      rw [UInt8.toNat_ofNat', Nat.shiftRight_eq_div_pow] at hzero
      have hzero : v / 2 ^ 8 % 256 = 0 := hzero
      omega
    have hnonzero : UInt8.ofNat v ≠ 0 := by
      intro hzero
      have hzero := congrArg UInt8.toNat hzero
      rw [UInt8.toNat_ofNat'] at hzero
      have hzero : v % 256 = 0 := hzero
      omega
    have hnil : uniconv_in [] = [] := rfl
    rw [hhigh, uniconv_in_ascii hlow, hnil] at h
    have hstr : str = [UInt8.ofNat v] := by
      rw [h, cstr, takeWhile_cons_of_pos (by simpa using hnonzero), takeWhile_nil]
    rw [hstr] at hv
    rw [hstr, ← hv]
    rfl
  · obtain ⟨c, more, htext, hc⟩ := uniconv_in_other hunit []
    rw [htext, cstr, takeWhile_cons_of_pos (by
      simp only [ne_eq, decide_not, Bool.not_eq_eq_eq_not, Bool.not_true, decide_eq_false_iff_not]
      intro hzero
      rw [hzero] at hc
      exact absurd hc (by decide))] at h
    have hmem : c ∈ str := by
      rw [h]
      exact mem_cons_self
    exact absurd (hascii c hmem).2 (UInt8.not_lt.mpr hc)

theorem length_optionalCookieBytes (cookie : ARC_CS_PRIVATE_PACKET) :
    ∃ j, (optionalCookieBytes cookie).length = 28 * j ∧ j ≤ 1 := by
  unfold optionalCookieBytes
  split
  · exact ⟨1, length_cookieBytes cookie, Nat.le_refl 1⟩
  · exact ⟨0, rfl, Nat.zero_le 1⟩

theorem length_extendedBytes (h : ExtendedFits client) :
    ∃ j, (extendedBytes client).length =
      192 + 2 * (text client.ip_address).length + 2 * (text client.client_dir).length + 28 * j ∧
        j ≤ 1 := by
  obtain ⟨j, hj, hle⟩ := length_optionalCookieBytes client.client_auto_reconnect_cookie
  refine ⟨j, ?_, hle⟩
  simp only [extendedBytes, extendedStringBytes, length_append, length_le16, length_le32,
    length_widen, length_timeZoneBytes h.zone, hj, length_nil]
  omega

theorem length_stringBytes (str : Bytes) : (stringBytes str).length = 2 * str.length + 2 := by
  simp [stringBytes]

/-- The client has sent a cookie: a run that delivers the packet, up to the extended part. -/
structure CookieRun (client : rdpSettings) : Prop where
  run : ∃ (server' : rdpSettings) (e r' : STREAM), ExtendedRun server' e r' ∧
    Recovered client server' ∧
    e = stream_seek (stream_of (infoBytes client)) (18 +
      (2 * (text client.domain).length + 2 + (2 * (text client.username).length + 2) +
        ((passwordField client).1 + 2) + (2 * (text client.shell).length + 2) +
        (2 * (text client.directory).length + 2))) ∧
    r'.pos = (infoBytes client).length

theorem Delivered.run (h : Fits local_time client) (hversion : server.rdp_version ≥ 5)
    (hdelivered : Delivered client server) : CookieRun client := by
  have hrest : Rest (stream_of (infoBytes client)) (infoBytes client ++ []) := by
    rw [append_nil]
    exact rest_stream_of _
  obtain ⟨server', r', hread, hr', hrecovered⟩ := hdelivered _ [] hrest
  have hhead := takes_head h _ _ hrest
  obtain ⟨server1, hextended⟩ := rdp_read_info_packet_some hversion hhead hread
  have hrun := rdp_read_extended_info_packet_some hextended
  obtain ⟨_, _, _, _, _, hsize⟩ := hrun.client_dir
  have hend := hr'.get_left
  rw [stream_get_left, hsize] at hend
  refine ⟨server', _, r', hrun, hrecovered, ?_, ?_⟩
  · simp [stream_seek, headBytes, Nat.add_assoc]
  · have hsize : (stream_of (infoBytes client)).size = (infoBytes client).length := rfl
    simp only [stream_seek_size, hsize, length_nil] at hend
    omega

theorem length_infoBytes : (infoBytes client).length = 18 +
    (2 * (text client.domain).length + 2) + (2 * (text client.username).length + 2) +
    (passwordBytes client).length + (2 * (text client.shell).length + 2) +
    (2 * (text client.directory).length + 2) + (extendedBytes client).length := by
  have hhead : (headBytes client).length = 18 := rfl
  simp only [infoBytes, length_append, hhead, length_stringBytes]
  omega

theorem not_delivered_one (hextended : ExtendedFits client)
    (hone : (text client.password_cookie).length = 1) : ¬ CookieRun client := by
  rintro ⟨server', e, r', hrun, hrecovered, he, hend⟩
  have hfield : passwordField client = (65535, text client.password_cookie) := by
    unfold passwordField
    rw [if_pos (by omega), hone]
  have hpassword : (passwordBytes client).length = 3 := by
    simp [passwordBytes, hfield, hone]
  obtain ⟨j, hlength, hj⟩ := length_extendedBytes hextended
  obtain ⟨dir, hdir, hclientDir, cookie, hpos, _⟩ := hrun.client_dir
  have hip := hrun.ip_address
  rw [hrecovered.ip_address] at hip
  rw [hrecovered.client_dir] at hclientDir
  have hip := length_of_ascii hextended.ip_address.ascii hip.symm
  have hclientDir := length_of_ascii hextended.client_dir.ascii hclientDir.symm
  rw [length_bytes_at] at hip hclientDir
  have hdirpos : dir.pos = e.pos + (4 + lengthAt (stream_seek e 2)) := by rw [hdir]; rfl
  have hepos := congrArg STREAM.pos he
  have hzero : (stream_of (infoBytes client)).pos = 0 := rfl
  rw [stream_seek_pos, hzero, hfield] at hepos
  rw [hend, length_infoBytes, hpassword, hlength] at hpos
  omega

theorem shifted_rest (hlong : 2 < (text client.password_cookie).length)
    (hshort : (text client.password_cookie).length < 65538) {e : STREAM}
    (he : e = stream_seek (stream_of (infoBytes client)) (18 +
      (2 * (text client.domain).length + 2 + (2 * (text client.username).length + 2) +
      ((passwordField client).1 + 2) +
      (2 * (text client.shell).length + 2) + (2 * (text client.directory).length + 2)))) :
    Rest e (le16 0 ++ extendedBytes client) ∧
      (infoBytes client).length = e.pos + (2 + (extendedBytes client).length) := by
  have hcount : ((text client.password_cookie).length + 65534) % 65536 =
      (text client.password_cookie).length - 2 := by omega
  have hfield : passwordField client =
      ((text client.password_cookie).length - 2, text client.password_cookie) := by
    unfold passwordField
    rw [if_pos (by omega), hcount]
  have hpassword : passwordBytes client = text client.password_cookie ++ le16 0 := by
    unfold passwordBytes
    rw [hfield, if_pos (by simp; omega), append_nil]
  have hbytes : infoBytes client = (headBytes client ++ stringBytes (text client.domain) ++
      stringBytes (text client.username) ++ (text client.password_cookie ++ le16 0) ++
      stringBytes (text client.shell) ++ widen (text client.directory)) ++
        (le16 0 ++ extendedBytes client) := by
    rw [infoBytes, hpassword]
    simp [stringBytes]
  have hhead : (headBytes client).length = 18 := rfl
  rw [hfield] at he
  constructor
  · have hrest := rest_stream_of (infoBytes client)
    rw [he]
    generalize stream_of (infoBytes client) = r at hrest ⊢
    rw [hbytes] at hrest
    refine hrest.seek ?_
    simp only [length_append, hhead, length_stringBytes, length_widen, length_le16]
    omega
  · have hzero : (stream_of (infoBytes client)).pos = 0 := rfl
    rw [he, stream_seek_pos, hzero, length_infoBytes, hpassword, length_append, length_le16]
    omega

theorem not_recovered_shifted (hextended : ExtendedFits client) {e r' : STREAM}
    (he : Rest e (le16 0 ++ extendedBytes client)) (hrun : ExtendedRun server' e r')
    (hrecovered : Recovered client server')
    (hend : r'.pos = e.pos + (2 + (extendedBytes client).length)) : False := by
  have hinet : client.ipv6 = false := by
    rw [← hrecovered.ipv6, hrun.ipv6, lengthAt_eq he]
    rfl
  have hfamily : familyOf client = ADDRESS_FAMILY_INET := by
    unfold familyOf
    rw [hinet]
    rfl
  have he2 := he.seek (n := 2) rfl
  unfold extendedBytes at he2
  rw [hfamily] at he2
  have hX : lengthAt (stream_seek e 2) = 2 := lengthAt_eq he2
  have he4 := he2.seek (n := 2) rfl
  unfold extendedStringBytes at he4
  simp only [append_assoc, nil_append] at he4
  have hip := hrun.ip_address
  rw [hrecovered.ip_address, hX] at hip
  have hlength : bytes_at e (e.pos + 4) 2 = le16 (2 * (text client.ip_address).length + 2) :=
    bytes_ahead he4
  rw [hlength] at hip
  have hfour := length_as_string hextended.ip_address.ascii hextended.ip_address.short hip
  rw [hfour] at he4
  obtain ⟨dir, hdir, hclientDir, cookie, hpos, _⟩ := hrun.client_dir
  rw [hX] at hdir
  subst hdir
  -- The only character of the address is the length of the directory now.
  have he6 := he4.seek (n := 2) rfl
  have hY : lengthAt (stream_seek e (4 + 2)) = 4 := lengthAt_eq (v := 4) he6
  have he8 := he6.seek (a := widen [4]) (n := 2) rfl
  rw [← append_assoc] at he8
  have hdirBytes : bytes_at e ((stream_seek e (4 + 2)).pos + 2) 4 =
      le16 0 ++ le16 (2 * (text client.client_dir).length + 2) := bytes_ahead he8
  rw [hrecovered.client_dir, hY, hdirBytes] at hclientDir
  have hzero : ∀ rest, cstr (uniconv_in (le16 0 ++ rest)) = [] := fun rest =>
    (congrArg cstr (uniconv_in_ascii (by decide) rest)).trans (cstr_zero _)
  have hempty : text client.client_dir = [] := hclientDir.trans (hzero _)
  obtain ⟨j, hlength, hj⟩ := length_extendedBytes hextended
  rw [hfour, hempty] at hlength
  rw [hend, hlength, hY, stream_seek_pos] at hpos
  simp only [length_cons, length_nil] at hpos
  omega

theorem Delivered.cookie (h : Fits local_time client) (hextended : ExtendedFits client)
    (hversion : server.rdp_version ≥ 5) (hdelivered : Delivered client server) :
    (text client.password_cookie).length = 0 ∨ (text client.password_cookie).length = 2 := by
  have hrun := hdelivered.run h hversion
  by_cases hone : (text client.password_cookie).length = 1
  · exact absurd hrun (not_delivered_one hextended hone)
  by_cases hlong : 2 < (text client.password_cookie).length
  · obtain ⟨server', e, r', hextendedRun, hrecovered, he, hend⟩ := hrun
    obtain ⟨hrest, hlength⟩ := shifted_rest hlong h.password_cookie he
    rw [hlength] at hend
    exact absurd hend fun hend =>
      not_recovered_shifted hextended hrest hextendedRun hrecovered hend
  · omega

theorem delivered_iff (h : Fits local_time client) (hextended : ExtendedFits client)
    (hversion : server.rdp_version ≥ 5) :
    Delivered client server ↔ Recoverable client server := by
  constructor
  · intro hdelivered
    have hcookie := hdelivered.cookie h hextended hversion
    have hrest : Rest (stream_of (infoBytes client)) (infoBytes client ++ []) := by
      rw [append_nil]
      exact rest_stream_of _
    obtain ⟨server', _, hread, _, hrecovered⟩ := hdelivered _ [] hrest
    obtain ⟨_, haccept, _⟩ := accepts_info (h.head hcookie) hextended hversion _ _ hrest
    rw [haccept] at hread
    cases hread
    exact (readInfo_recovered client server hcookie).mp hrecovered
  · intro hrecoverable r tail hr
    have hcookie := hrecoverable.password_cookie
    obtain ⟨r', haccept, hr'⟩ := accepts_info (h.head hcookie) hextended hversion r tail hr
    exact ⟨_, r', haccept, hr', (readInfo_recovered client server hcookie).mpr hrecoverable⟩

/-! ## The round trip -/

/-- The client writes its settings with the local time. The server reads them exactly if there
is no cookie to be read and no old string in place of an empty one. -/
theorem client_info_is_recovered_iff (local_time : LocalTime) (client server : rdpSettings)
    (h : Fits local_time client) (hclient : client.rdp_version ≥ 5)
    (hserver : server.rdp_version ≥ 5) :
    (∀ s : STREAM, s.pos ≤ s.data.length → rdp_write_info_packet local_time client s =
      some (rdp_get_client_time_zone local_time client,
        stream_write s (infoBytes (rdp_get_client_time_zone local_time client)))) ∧
    (Delivered (rdp_get_client_time_zone local_time client) server ↔
      Recoverable (rdp_get_client_time_zone local_time client) server) :=
  ⟨emits_info h hclient, delivered_iff h.sent h.extended hserver⟩

def noTime : SYSTEM_TIME := ⟨0, 0, 0, 0, 0, 0, 0, 0⟩

def noZone : TIME_ZONE_INFO := ⟨0, [], noTime, 0, [], noTime, 0⟩

def noCookie : ARC_CS_PRIVATE_PACKET := ⟨0, 0, 0, Vector.replicate 16 0⟩

/-- Settings before anything is known. -/
def emptySettings : rdpSettings :=
  ⟨7, false, false, false, false, none, none, none, none, none, none, false, none, none, noZone, 0,
    noCookie⟩

/-- A user `ab` with the password `pw`. -/
def userSettings : rdpSettings :=
  { emptySettings with
    autologon := true, username := some [97, 98], password := some [112, 119]
    ip_address := some [49, 46, 50], performance_flags := 6 }

def winterTime : LocalTime := ⟨60, false, [67, 69, 84], [67, 69, 83, 84]⟩

theorem userSettings_fits : Fits winterTime userSettings :=
  have hempty : ∀ more : Nat, more < 65536 → FitsIn more none := fun more hmore =>
    ⟨fun b hb => (nomatch hb), by simpa [text] using hmore⟩
  have hsome : ∀ str : Bytes, Ascii str → 2 * str.length + 2 < 65536 →
      FitsIn 0 (some str) ∧ FitsIn 2 (some str) := fun str hascii hshort =>
    ⟨⟨hascii, Nat.lt_of_le_of_lt (Nat.le_add_right _ 2) hshort⟩, hascii, hshort⟩
  ⟨hempty 0 (by decide), (hsome [97, 98] (by simp [Ascii]) (by decide)).1,
    (hsome [112, 119] (by simp [Ascii]) (by decide)).1, by decide, hempty 0 (by decide),
    hempty 0 (by decide), (hsome [49, 46, 50] (by simp [Ascii]) (by decide)).2,
    hempty 2 (by decide), by decide +kernel, by decide +kernel⟩

theorem client_info_of_user :
    Delivered (rdp_get_client_time_zone winterTime userSettings) emptySettings :=
  (client_info_is_recovered_iff winterTime userSettings emptySettings userSettings_fits
    (by decide) (by decide)).2.mpr ⟨by decide, by decide, by decide, by decide, by decide,
      by decide, by decide⟩

/-- The same user with a cookie of two characters. -/
def cookieSettings : rdpSettings :=
  { userSettings with password_cookie := some [97, 0, 0, 0] }

/-- The same user with an auto-reconnect cookie. -/
def reconnectSettings : rdpSettings :=
  { userSettings with
    client_auto_reconnect_cookie := ⟨28, 1, 7, Vector.replicate 16 1⟩ }

theorem client_info_counterexample :
    rdp_read_info_packet emptySettings
      (stream_of (infoBytes (rdp_get_client_time_zone winterTime cookieSettings))) = none ∧
    (rdp_read_info_packet emptySettings
      (stream_of (infoBytes (rdp_get_client_time_zone winterTime reconnectSettings)))).map
        (·.1.client_auto_reconnect_cookie) = some noCookie := by
  decide +kernel

end neutrinordp.info

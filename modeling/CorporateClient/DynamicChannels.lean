-- Dynamic virtual channels (drdynvc_main.c, dvcman.c). A message goes out in one data PDU, or in a
-- first PDU that says its length and more data PDUs behind it. The channel number and the length
-- take 1, 2 or 4 bytes.
import CorporateClient.StaticChannelLaws

namespace neutrinordp.drdynvc

open List bytes demux stream svc

def CHANNEL_CHUNK_LENGTH : Nat := 1600
def CHANNEL_RC_OK : Nat := 0
def DATA_FIRST_PDU : Nat := 0x02
def DATA_PDU : Nat := 0x03

/-! ## The sender -/

/-- The result has the code of the width. -/
def drdynvc_write_variable_uint (stream : STREAM) (val : Nat) : Nat × STREAM :=
  if val ≤ 0xFF then (0, stream_write_uint8 stream val)
  else if val ≤ 0xFFFF then (1, stream_write_uint16 stream val)
  else (3, stream_write_uint32 stream val)

def pdu_start (ChannelId : UInt32) : Nat × STREAM :=
  drdynvc_write_variable_uint (stream_set_pos (stream_new CHANNEL_CHUNK_LENGTH) 1)
    ChannelId.toNat

def write_first_byte (s : STREAM) (value : Nat) : STREAM :=
  let pos := stream_get_pos s
  stream_set_pos (stream_write_uint8 (stream_set_pos s 0) value) pos

def data_start (ChannelId : UInt32) : STREAM :=
  let (cbChId, data_out) := pdu_start ChannelId
  write_first_byte data_out (0x30 ||| cbChId)

theorem drdynvc_write_variable_uint_pos (s : STREAM) (val : Nat) :
    (drdynvc_write_variable_uint s val).2.pos ≤ s.pos + 4 := by
  unfold drdynvc_write_variable_uint
  split
  · exact Nat.add_le_add_left (Nat.le_of_ble_eq_true rfl) s.pos
  · split
    · exact Nat.add_le_add_left (Nat.le_of_ble_eq_true rfl) s.pos
    · exact Nat.le_refl _

variable (ChannelId : UInt32)

theorem data_start_pos : (data_start ChannelId).pos ≤ 5 :=
  drdynvc_write_variable_uint_pos _ _

def chunk_len (ChannelId : UInt32) (data_size : Nat) : Nat :=
  let pos := stream_get_pos (data_start ChannelId)
  if data_size > CHANNEL_CHUNK_LENGTH - pos then CHANNEL_CHUNK_LENGTH - pos else data_size

theorem chunk_len_pos {data_size : Nat} (h : 0 < data_size) :
    0 < chunk_len ChannelId data_size := by
  have hpos := data_start_pos ChannelId
  unfold chunk_len stream_get_pos CHANNEL_CHUNK_LENGTH
  dsimp only
  split
  · omega
  · exact h

/-- What `svc_plugin_send` returns for a stream is a parameter. -/
def write_fragments (svc_plugin_send : STREAM → Nat) (ChannelId : UInt32) (error : Nat)
    (data : List UInt8) : Nat × List STREAM :=
  if error = CHANNEL_RC_OK ∧ data.length > 0 then
    let data_out := stream_write (data_start ChannelId)
      (data.take (chunk_len ChannelId data.length))
    let (error, pdus) := write_fragments svc_plugin_send ChannelId (svc_plugin_send data_out)
      (data.drop (chunk_len ChannelId data.length))
    (error, data_out :: pdus)
  else (error, [])
termination_by data.length
decreasing_by
  rename_i hmore
  have hpos := chunk_len_pos ChannelId hmore.2
  rw [length_drop]
  omega

/-- The PDUs of a message. The message is sent in one PDU if its size is not over the limit: the
position that is taken from the limit is still 0 here. -/
def drdynvc_write_data (svc_plugin_send : STREAM → Nat) (ChannelId : UInt32)
    (data : List UInt8) : Nat × List STREAM :=
  let pos := 0
  let (cbChId, data_out) := pdu_start ChannelId
  let (error, pdus) :=
    if data.length ≤ CHANNEL_CHUNK_LENGTH - pos then
      let data_out := stream_write (write_first_byte data_out (0x30 ||| cbChId)) data
      (svc_plugin_send data_out, [data_out])
    else
      let (cbLen, data_out) := drdynvc_write_variable_uint data_out data.length
      let data_out := write_first_byte data_out (0x20 ||| cbChId ||| (cbLen <<< 2))
      let chunk_len := CHANNEL_CHUNK_LENGTH - stream_get_pos data_out
      let data_out := stream_write data_out (data.take chunk_len)
      let (error, pdus) := write_fragments svc_plugin_send ChannelId (svc_plugin_send data_out)
        (data.drop chunk_len)
      (error, data_out :: pdus)
  if error ≠ CHANNEL_RC_OK then (1, pdus) else (0, pdus)

/-! ## The receiver -/

/-- `dvc_data` is the message that is not complete yet. `received` has the messages that went to
`OnDataReceived`. -/
structure DVCMAN_CHANNEL where
  channel_id : Nat
  dvc_data : Option STREAM
  received : List (List UInt8)
deriving Repr, DecidableEq

/-- The channel is found in the list, and changed where it stands. -/
def change_channel (channels : List DVCMAN_CHANNEL) (ChannelId : Nat)
    (f : DVCMAN_CHANNEL → DVCMAN_CHANNEL) : List DVCMAN_CHANNEL :=
  changeFirst (·.channel_id = ChannelId) f channels

def dvcman_find_channel_by_id (channels : List DVCMAN_CHANNEL) (ChannelId : Nat) :
    Option DVCMAN_CHANNEL :=
  channels.find? (·.channel_id = ChannelId)

def dvcman_receive_channel_data_first (channels : List DVCMAN_CHANNEL) (ChannelId length : Nat) :
    Int × List DVCMAN_CHANNEL :=
  match dvcman_find_channel_by_id channels ChannelId with
  | none => (1, channels)
  | some channel =>
    (0, change_channel channels ChannelId
      fun _ => { channel with dvc_data := some (stream_new (int length)) })

/-- What `OnDataReceived` of a channel returns is a parameter. -/
def dvcman_receive_channel_data (OnDataReceived : Nat → List UInt8 → Int)
    (channels : List DVCMAN_CHANNEL) (ChannelId : Nat) (data : List UInt8) :
    Int × List DVCMAN_CHANNEL :=
  match dvcman_find_channel_by_id channels ChannelId with
  | none => (1, channels)
  | some channel =>
    match channel.dvc_data with
    | some dvc_data =>
      if stream_get_length dvc_data + data.length > dvc_data.size then
        (1, change_channel channels ChannelId fun _ => { channel with dvc_data := none })
      else
        let dvc_data := stream_write dvc_data data
        if stream_get_length dvc_data ≥ dvc_data.size then
          let message := bytes_at dvc_data 0 dvc_data.size
          (OnDataReceived ChannelId message, change_channel channels ChannelId
            fun _ => { channel with dvc_data := none, received := channel.received ++ [message] })
        else
          (0, change_channel channels ChannelId
            fun _ => { channel with dvc_data := some dvc_data })
    | none =>
      (OnDataReceived ChannelId data, change_channel channels ChannelId
        fun _ => { channel with received := channel.received ++ [data] })

def drdynvc_read_variable_uint (cbLen : Nat) : StateM STREAM Nat :=
  match cbLen with
  | 0 => do return (← stream_read_uint8).toNat
  | 1 => stream_read_uint16
  | _ => stream_read_uint32

/-- The rest of the PDU as data, with its length as a `uint32`. -/
def tail_data (s : STREAM) : List UInt8 :=
  bytes_at s s.pos (stream_get_left s % 4294967296).toNat

def drdynvc_process_data_first (OnDataReceived : Nat → List UInt8 → Int) (Sp cbChId : Nat)
    (channels : List DVCMAN_CHANNEL) (s : STREAM) : Int × List DVCMAN_CHANNEL :=
  let (ChannelId, s) := drdynvc_read_variable_uint cbChId s
  let (Length, s) := drdynvc_read_variable_uint Sp s
  let (error, channels) := dvcman_receive_channel_data_first channels ChannelId Length
  if error ≠ 0 then (error, channels)
  else dvcman_receive_channel_data OnDataReceived channels ChannelId (tail_data s)

def drdynvc_process_data (OnDataReceived : Nat → List UInt8 → Int) (cbChId : Nat)
    (channels : List DVCMAN_CHANNEL) (s : STREAM) : Int × List DVCMAN_CHANNEL :=
  let (ChannelId, s) := drdynvc_read_variable_uint cbChId s
  dvcman_receive_channel_data OnDataReceived channels ChannelId (tail_data s)

/-- The two commands that carry data, out of `drdynvc_process_receive`. The errors are not looked
at. `none` is another command. -/
def drdynvc_process_receive (OnDataReceived : Nat → List UInt8 → Int)
    (channels : List DVCMAN_CHANNEL) (s : STREAM) : Option (List DVCMAN_CHANNEL) :=
  let (value, s) := stream_read_uint8 s
  let Cmd := (value.toNat &&& 0xf0) >>> 4
  let Sp := (value.toNat &&& 0x0c) >>> 2
  let cbChId := value.toNat &&& 0x03
  if Cmd = DATA_FIRST_PDU then
    some (drdynvc_process_data_first OnDataReceived Sp cbChId channels s).2
  else if Cmd = DATA_PDU then some (drdynvc_process_data OnDataReceived cbChId channels s).2
  else none

/-- The bytes of a PDU, as `svc_plugin_send` hands them on. -/
def pdu_bytes (pdu : STREAM) : List UInt8 := pdu.data.take (stream_get_length pdu)

/-! ## What is written -/

/-- The bytes of a number of variable width. -/
def variableUint (val : Nat) : List UInt8 :=
  if val ≤ 0xFF then [UInt8.ofNat val] else if val ≤ 0xFFFF then le16 val else le32 val

/-- The code of its width. -/
def widthCode (val : Nat) : Nat := if val ≤ 0xFF then 0 else if val ≤ 0xFFFF then 1 else 3

theorem drdynvc_write_variable_uint.spec (s : STREAM) (val : Nat) :
    drdynvc_write_variable_uint s val = (widthCode val, stream_write s (variableUint val)) := by
  unfold drdynvc_write_variable_uint widthCode variableUint
  split
  · rfl
  · split <;> rfl

theorem length_variableUint (val : Nat) :
    (variableUint val).length = if val ≤ 0xFF then 1 else if val ≤ 0xFFFF then 2 else 4 := by
  unfold variableUint
  split
  · rfl
  · split <;> rfl

theorem takes_variableUint {val : Nat} (h : val < 4294967296) :
    Takes (drdynvc_read_variable_uint (widthCode val)) (variableUint val) val := by
  unfold widthCode variableUint
  split
  · have hval : (UInt8.ofNat val).toNat = val := by
      rw [UInt8.toNat_ofNat']
      omega
    exact .uint8 (.pure_eq hval)
  · split
    · have hread : Takes stream_read_uint16 (le16 val) (val % 65536) := takes_uint16
      rwa [Nat.mod_eq_of_lt (by omega)] at hread
    · have hread : Takes stream_read_uint32 (le32 val) (val % 4294967296) := takes_uint32
      rwa [Nat.mod_eq_of_lt h] at hread

/-- A PDU is a new stream with its bytes in it. -/
def pdu (bs : List UInt8) : STREAM := stream_write (stream_new CHANNEL_CHUNK_LENGTH) bs

theorem write_first_byte_pdu (value : Nat) (b : UInt8) (bs : Bytes) :
    write_first_byte (pdu (b :: bs)) value = pdu (UInt8.ofNat value :: bs) :=
  stream_write_over (stream_new CHANNEL_CHUNK_LENGTH) [] [b] [UInt8.ofNat value] bs
    (Nat.zero_le _) rfl

theorem pdu_append (a b : Bytes) : stream_write (pdu a) b = pdu (a ++ b) :=
  stream_write_write (stream_new CHANNEL_CHUNK_LENGTH) a b (Nat.zero_le _)

theorem length_new_pdu : (stream_new CHANNEL_CHUNK_LENGTH).data.length = CHANNEL_CHUNK_LENGTH :=
  length_replicate

theorem pdu_start.spec : ∃ b, pdu_start ChannelId =
    (widthCode ChannelId.toNat, pdu (b :: variableUint ChannelId.toNat)) := by
  obtain ⟨x, hx, hseek⟩ := stream_seek_eq_write _ 1
    (by rw [length_new_pdu]; exact Nat.le_of_ble_eq_true rfl)
  obtain ⟨b, rfl⟩ := length_eq_one_iff.mp hx
  have hstart : stream_set_pos (stream_new CHANNEL_CHUNK_LENGTH) 1 = pdu [b] := hseek
  refine ⟨b, ?_⟩
  unfold pdu_start
  rw [drdynvc_write_variable_uint.spec, hstart, pdu_append]
  rfl

/-- The header of a data PDU. -/
def dataHeader (ChannelId : UInt32) : List UInt8 :=
  UInt8.ofNat (0x30 ||| widthCode ChannelId.toNat) :: variableUint ChannelId.toNat

/-- The header of the first PDU of a long message. -/
def firstHeader (ChannelId : UInt32) (length : Nat) : List UInt8 :=
  UInt8.ofNat (0x20 ||| widthCode ChannelId.toNat ||| (widthCode length <<< 2)) ::
    (variableUint ChannelId.toNat ++ variableUint length)

theorem data_start.spec : data_start ChannelId = pdu (dataHeader ChannelId) := by
  obtain ⟨b, hstart⟩ := pdu_start.spec ChannelId
  unfold data_start
  rw [hstart]
  exact write_first_byte_pdu _ b _

@[simp] theorem pdu_pos (bs : Bytes) : (pdu bs).pos = bs.length := Nat.zero_add _

@[simp] theorem pdu_size (bs : Bytes) : (pdu bs).size = CHANNEL_CHUNK_LENGTH := rfl

@[simp] theorem pdu_bytes_pdu (bs : Bytes) : pdu_bytes (pdu bs) = bs :=
  (take_stream_write (stream_new CHANNEL_CHUNK_LENGTH) bs (Nat.zero_le _)).trans
    (nil_append _)

theorem length_dataHeader :
    2 ≤ (dataHeader ChannelId).length ∧ (dataHeader ChannelId).length ≤ 5 := by
  unfold dataHeader
  rw [length_cons, length_variableUint]
  split
  · omega
  · split <;> omega

theorem length_firstHeader (length : Nat) : (firstHeader ChannelId length).length ≤ 9 := by
  unfold firstHeader
  rw [length_cons, length_append, length_variableUint, length_variableUint]
  split <;> split <;> (try split) <;> (try split) <;> omega

variable {svc_plugin_send : STREAM → Nat} {data : Bytes}

theorem write_fragments.spec (hsend : ∀ s, svc_plugin_send s = CHANNEL_RC_OK) (ChannelId : UInt32)
    (data : Bytes) :
    ∃ pieces : List Bytes, write_fragments svc_plugin_send ChannelId CHANNEL_RC_OK data =
        (CHANNEL_RC_OK, pieces.map fun piece => pdu (dataHeader ChannelId ++ piece)) ∧
      pieces.flatten = data ∧
      ∀ piece ∈ pieces, 0 < piece.length ∧
        (dataHeader ChannelId).length + piece.length ≤ CHANNEL_CHUNK_LENGTH := by
  induction hn : data.length using Nat.strongRecOn generalizing data with
  | ind n ih =>
    unfold write_fragments
    by_cases hsome : data.length > 0
    · have hpos := chunk_len_pos ChannelId hsome
      obtain ⟨pieces, hrest, hflat, hpieces⟩ := ih _
        (by omega) (data.drop (chunk_len ChannelId data.length)) length_drop
      rw [if_pos ⟨rfl, hsome⟩]
      dsimp only
      rw [hsend, hrest]
      refine ⟨data.take (chunk_len ChannelId data.length) :: pieces, ?_, ?_, ?_⟩
      · rw [data_start.spec, pdu_append]
        rfl
      · rw [flatten_cons, hflat, take_append_drop]
      · intro piece hpiece
        rcases mem_cons.mp hpiece with rfl | hpiece
        · have hheader := length_dataHeader ChannelId
          rw [length_take]
          refine ⟨by omega, ?_⟩
          unfold chunk_len stream_get_pos CHANNEL_CHUNK_LENGTH
          rw [data_start.spec, pdu_pos]
          dsimp only
          split <;> omega
        · exact hpieces piece hpiece
    · rw [if_neg fun h => hsome h.2]
      refine ⟨[], rfl, ?_, forall_mem_nil _⟩
      exact (length_eq_zero_iff.mp (by omega)).symm

theorem drdynvc_write_data.one (hsend : ∀ s, svc_plugin_send s = CHANNEL_RC_OK) (ChannelId : UInt32)
    (h : data.length ≤ CHANNEL_CHUNK_LENGTH) :
    drdynvc_write_data svc_plugin_send ChannelId data =
      (0, [pdu (dataHeader ChannelId ++ data)]) := by
  obtain ⟨b, hstart⟩ := pdu_start.spec ChannelId
  unfold drdynvc_write_data
  rw [hstart]
  dsimp only
  rw [Nat.sub_zero, if_pos h, write_first_byte_pdu, pdu_append, hsend]
  rfl

theorem drdynvc_write_data.more (hsend : ∀ s, svc_plugin_send s = CHANNEL_RC_OK)
    (ChannelId : UInt32) (h : CHANNEL_CHUNK_LENGTH < data.length) :
    ∃ (piece : Bytes) (pieces : List Bytes),
      drdynvc_write_data svc_plugin_send ChannelId data =
        (0, pdu (firstHeader ChannelId data.length ++ piece) ::
          pieces.map fun piece => pdu (dataHeader ChannelId ++ piece)) ∧
      piece ++ pieces.flatten = data ∧
      (firstHeader ChannelId data.length).length + piece.length = CHANNEL_CHUNK_LENGTH ∧
      ∀ piece ∈ pieces, 0 < piece.length ∧
        (dataHeader ChannelId).length + piece.length ≤ CHANNEL_CHUNK_LENGTH := by
  obtain ⟨b, hstart⟩ := pdu_start.spec ChannelId
  have hheader := length_firstHeader ChannelId data.length
  obtain ⟨pieces, hrest, hflat, hpieces⟩ := write_fragments.spec hsend ChannelId
    (data.drop (CHANNEL_CHUNK_LENGTH - (firstHeader ChannelId data.length).length))
  refine ⟨data.take (CHANNEL_CHUNK_LENGTH - (firstHeader ChannelId data.length).length), pieces,
    ?_, ?_, ?_, hpieces⟩
  · unfold drdynvc_write_data
    rw [hstart]
    dsimp only
    rw [Nat.sub_zero, if_neg (Nat.not_le_of_lt h), drdynvc_write_variable_uint.spec]
    have hfirst : write_first_byte (stream_write (pdu (b :: variableUint ChannelId.toNat))
        (variableUint data.length)) (0x20 ||| widthCode ChannelId.toNat |||
          (widthCode data.length <<< 2)) = pdu (firstHeader ChannelId data.length) := by
      rw [pdu_append]
      exact write_first_byte_pdu _ b _
    rw [hfirst, stream_get_pos, pdu_pos, hsend, hrest, pdu_append]
    rfl
  · rw [hflat, take_append_drop]
  · rw [length_take]
    unfold CHANNEL_CHUNK_LENGTH at h ⊢
    omega

/-! ## What is received -/

theorem tail_data_of_rest {s : STREAM} (h : Rest s data) (hlen : data.length < 4294967296) :
    tail_data s = data := by
  unfold tail_data
  rw [h.get_left]
  have hmod : ((data.length : Int) % 4294967296).toNat = data.length := by omega
  rw [hmod, bytes_at_left _ _ (by rw [h.left]), h.left, take_length]

section

variable (OnDataReceived : Nat → Bytes → Int) (ChannelId : UInt32)
  (channels : List DVCMAN_CHANNEL)

theorem receive_data_pdu {piece : Bytes} (hlen : piece.length < 4294967296) :
    drdynvc_process_receive OnDataReceived channels
        (stream_of (dataHeader ChannelId ++ piece)) = some
      (dvcman_receive_channel_data OnDataReceived channels ChannelId.toNat piece).2 := by
  have hs : Rest (stream_of (dataHeader ChannelId ++ piece))
      ([UInt8.ofNat (0x30 ||| widthCode ChannelId.toNat)] ++
        (variableUint ChannelId.toNat ++ piece)) := rest_stream_of _
  have hvalue := takes_uint8 _ _ hs
  have hs1 : Rest (stream_seek (stream_of (dataHeader ChannelId ++ piece)) 1)
      (variableUint ChannelId.toNat ++ piece) := hs.seek rfl
  have hid := takes_variableUint ChannelId.toNat_lt _ _ hs1
  unfold drdynvc_process_receive
  rw [hvalue]
  dsimp only
  -- The three widths have three first bytes.
  have hcmd : ((UInt8.ofNat (0x30 ||| widthCode ChannelId.toNat)).toNat &&& 0xf0) >>> 4 = 3 ∧
      (UInt8.ofNat (0x30 ||| widthCode ChannelId.toNat)).toNat &&& 0x03 =
        widthCode ChannelId.toNat := by
    unfold widthCode
    split
    · decide
    · split <;> decide
  rw [hcmd.1, hcmd.2]
  unfold drdynvc_process_data
  rw [length_singleton, hid]
  dsimp only
  rw [tail_data_of_rest (hs1.seek rfl) hlen]
  rfl

theorem receive_first_pdu {piece : Bytes} {length : Nat} (hlen : piece.length < 4294967296)
    (hlength : length < 4294967296) {channel : DVCMAN_CHANNEL}
    (hopen : dvcman_find_channel_by_id channels ChannelId.toNat = some channel) :
    drdynvc_process_receive OnDataReceived channels
        (stream_of (firstHeader ChannelId length ++ piece)) = some
      (dvcman_receive_channel_data OnDataReceived
        (change_channel channels ChannelId.toNat
          fun _ => { channel with dvc_data := some (stream_new (int length)) })
        ChannelId.toNat piece).2 := by
  have hs : Rest (stream_of (firstHeader ChannelId length ++ piece))
      ([UInt8.ofNat (0x20 ||| widthCode ChannelId.toNat ||| (widthCode length <<< 2))] ++
        (variableUint ChannelId.toNat ++ (variableUint length ++ piece))) := by
    rw [← append_assoc (variableUint _)]
    exact rest_stream_of _
  have hvalue := takes_uint8 _ _ hs
  have hs1 : Rest (stream_seek (stream_of (firstHeader ChannelId length ++ piece)) 1)
      (variableUint ChannelId.toNat ++ (variableUint length ++ piece)) := hs.seek rfl
  have hid := takes_variableUint ChannelId.toNat_lt _ _ hs1
  have hs2 := hs1.seek rfl
  have hsize := takes_variableUint hlength _ _ hs2
  unfold drdynvc_process_receive
  rw [hvalue]
  dsimp only
  have hcmd : ∀ a b : Nat, a = 0 ∨ a = 1 ∨ a = 3 → b = 0 ∨ b = 1 ∨ b = 3 →
      ((UInt8.ofNat (0x20 ||| a ||| (b <<< 2))).toNat &&& 0xf0) >>> 4 = 2 ∧
      ((UInt8.ofNat (0x20 ||| a ||| (b <<< 2))).toNat &&& 0x0c) >>> 2 = b ∧
      (UInt8.ofNat (0x20 ||| a ||| (b <<< 2))).toNat &&& 0x03 = a := by
    rintro a b (rfl | rfl | rfl) (rfl | rfl | rfl) <;> decide
  have hcode : ∀ val, widthCode val = 0 ∨ widthCode val = 1 ∨ widthCode val = 3 := by
    intro val
    unfold widthCode
    split
    · exact Or.inl rfl
    · split
      · exact Or.inr (Or.inl rfl)
      · exact Or.inr (Or.inr rfl)
  obtain ⟨hc, hsp, hch⟩ := hcmd _ _ (hcode ChannelId.toNat) (hcode length)
  rw [hc, hsp, hch]
  unfold drdynvc_process_data_first
  rw [length_singleton, hid]
  dsimp only
  rw [hsize]
  dsimp only
  unfold dvcman_receive_channel_data_first
  rw [hopen, tail_data_of_rest (hs2.seek rfl) hlen]
  rfl

end

/-! ## Messages -/

/-- The channels with another state of one of them. -/
def withChannel (channels : List DVCMAN_CHANNEL) (channel : DVCMAN_CHANNEL) : List DVCMAN_CHANNEL :=
  change_channel channels channel.channel_id fun _ => channel

section

variable (OnDataReceived : Nat → Bytes → Int) {ChannelId : UInt32}
  {channels : List DVCMAN_CHANNEL} {channel : DVCMAN_CHANNEL}
  (hopen : dvcman_find_channel_by_id channels ChannelId.toNat = some channel)

include hopen

theorem open_channel_id : channel.channel_id = ChannelId.toNat := by
  have hfound := find?_some hopen
  exact of_decide_eq_true hfound

theorem withChannel_same : withChannel channels channel = channels := by
  unfold withChannel
  rw [open_channel_id hopen]
  exact changeFirst_same hopen

variable (now : DVCMAN_CHANNEL) (hnow : now.channel_id = ChannelId.toNat)

include hnow

theorem find_withChannel :
    dvcman_find_channel_by_id (withChannel channels now) ChannelId.toNat = some now := by
  have hkeep : ∀ a : DVCMAN_CHANNEL, decide (a.channel_id = ChannelId.toNat) = true →
      decide (now.channel_id = ChannelId.toNat) = true := fun _ _ => decide_eq_true hnow
  unfold dvcman_find_channel_by_id at hopen
  unfold dvcman_find_channel_by_id withChannel change_channel
  rw [hnow, find_changeFirst_self hkeep, hopen]
  rfl

omit hopen in
theorem change_withChannel (dvc_data : Option STREAM) (received : List Bytes) :
    change_channel (withChannel channels now) ChannelId.toNat
        (fun _ => ⟨now.channel_id, dvc_data, received⟩) =
      withChannel channels ⟨now.channel_id, dvc_data, received⟩ := by
  unfold withChannel change_channel
  rw [hnow]
  exact changeFirst_changeFirst
    (p := fun channel : DVCMAN_CHANNEL => decide (channel.channel_id = ChannelId.toNat))
    (decide_eq_true hnow) _ channels

theorem pieces_received_apart (hidle : now.dvc_data = none) (pieces : List Bytes)
    (hpieces : ∀ piece ∈ pieces, piece.length < 4294967296) :
    (pieces.map fun piece => stream_of (dataHeader ChannelId ++ piece)).foldlM
        (drdynvc_process_receive OnDataReceived) (withChannel channels now) =
      some (withChannel channels { now with received := now.received ++ pieces }) := by
  induction pieces generalizing now with
  | nil => simp
  | cons piece pieces ih =>
    have hpiece := receive_data_pdu OnDataReceived ChannelId (withChannel channels now)
      (hpieces piece mem_cons_self)
    unfold dvcman_receive_channel_data at hpiece
    rw [find_withChannel hopen now hnow] at hpiece
    dsimp only at hpiece
    rw [hidle] at hpiece
    dsimp only at hpiece
    rw [change_withChannel now hnow] at hpiece
    have hrest := @ih ⟨now.channel_id, none, now.received ++ [piece]⟩ hnow rfl
      (forall_mem_cons.mp hpieces).2
    rw [map_cons, foldlM_cons, hpiece]
    refine hrest.trans ?_
    rw [append_assoc, hidle]
    rfl

theorem pieces_received_together {buffer : STREAM} {total : Nat} {acc : Bytes}
    (hbuffer : now.dvc_data = some buffer) (hfilling : Filling buffer total acc)
    (pieces : List Bytes) (hsome : ∀ piece ∈ pieces, 0 < piece.length)
    (htotal : acc.length + pieces.flatten.length = total) (hmore : acc.length < total)
    (hsize : total < 4294967296) :
    (pieces.map fun piece => stream_of (dataHeader ChannelId ++ piece)).foldlM
        (drdynvc_process_receive OnDataReceived) (withChannel channels now) =
      some (withChannel channels { now with
        dvc_data := none, received := now.received ++ [acc ++ pieces.flatten] }) := by
  induction pieces generalizing now buffer acc with
  | nil => simp only [flatten_nil, length_nil] at htotal; omega
  | cons piece pieces ih =>
    rw [flatten_cons, length_append] at htotal
    have hpiece := receive_data_pdu OnDataReceived ChannelId (withChannel channels now)
      (by omega : piece.length < 4294967296)
    unfold dvcman_receive_channel_data at hpiece
    rw [find_withChannel hopen now hnow] at hpiece
    dsimp only at hpiece
    rw [hbuffer] at hpiece
    dsimp only at hpiece
    have hpos := hfilling.collected.pos
    have hsize' := hfilling.size
    have hwritten := hfilling.write (hsome piece mem_cons_self) (by omega)
    have hpos' := hwritten.collected.pos
    rw [length_append] at hpos'
    have hsize'' := hwritten.size
    rw [if_neg (by unfold stream_get_length; omega)] at hpiece
    rw [map_cons, foldlM_cons, hpiece]
    by_cases hlast : pieces.flatten.length = 0
    · -- The message is complete, so no pieces are left.
      have hnone : pieces = [] := by
        cases pieces with
        | nil => rfl
        | cons p _ =>
          have hp := hsome p (mem_cons_of_mem piece mem_cons_self)
          rw [flatten_cons, length_append] at hlast
          omega
      subst hnone
      have hmessage : bytes_at (stream_write buffer piece) 0 (stream_write buffer piece).size =
          acc ++ piece := by
        have hfull : (stream_write buffer piece).size = (stream_write buffer piece).pos := by
          omega
        rw [hfull]
        exact hwritten.collected.bytes_at
      rw [if_pos (by unfold stream_get_length; omega), hmessage, change_withChannel now hnow]
      simp
    · rw [if_neg (by unfold stream_get_length; omega), change_withChannel now hnow]
      have hrest := @ih ⟨now.channel_id, some (stream_write buffer piece), now.received⟩ hnow _ _
        rfl hwritten (forall_mem_cons.mp hsome).2
      refine (hrest ?_ ?_).trans ?_
      · rw [length_append]
        omega
      · rw [length_append]
        omega
      · rw [append_assoc]
        rfl

omit hnow

theorem first_pdu_received {length : Nat} {piece : Bytes} (hlen : piece.length < 4294967296)
    (hlength : length < 4294967296) :
    drdynvc_process_receive OnDataReceived channels
        (stream_of (firstHeader ChannelId length ++ piece)) =
      drdynvc_process_receive OnDataReceived
        (withChannel channels { channel with dvc_data := some (stream_new (int length)) })
        (stream_of (dataHeader ChannelId ++ piece)) := by
  rw [receive_first_pdu OnDataReceived ChannelId channels hlen hlength hopen,
    receive_data_pdu OnDataReceived ChannelId _ hlen]
  unfold withChannel
  rw [open_channel_id hopen]

theorem huge_message_given_up {length : Nat} {piece : Bytes} (hlen : 0x400 < piece.length)
    (hpiece : piece.length < 4294967296) (hhuge : 2 ^ 31 ≤ length) (hlength : length < 2 ^ 32) :
    drdynvc_process_receive OnDataReceived channels
        (stream_of (firstHeader ChannelId length ++ piece)) =
      some (withChannel channels { channel with dvc_data := none }) := by
  have hid := open_channel_id hopen
  have hnegative : int length < 0 := by
    have hnat : (BitVec.ofNat 32 length).toNat = length := by
      rw [BitVec.toNat_ofNat]
      omega
    unfold int
    rw [BitVec.toInt_eq_toNat_cond, hnat, if_neg (by omega)]
    omega
  have hsize : (stream_new (int length)).size = 0x400 := by
    unfold stream_new
    rw [if_neg (by omega), if_neg (by omega)]
  rw [first_pdu_received OnDataReceived hopen hpiece hlength,
    receive_data_pdu OnDataReceived ChannelId _ hpiece]
  unfold dvcman_receive_channel_data
  rw [find_withChannel hopen { channel with dvc_data := some (stream_new (int length)) } hid]
  dsimp only
  rw [if_pos (by rw [hsize]; exact Nat.lt_of_lt_of_le hlen (Nat.le_add_left _ _))]
  exact congrArg some (change_withChannel
    { channel with dvc_data := some (stream_new (int length)) } hid none channel.received)

end

/-- The message arrives as the caller wants it: every PDU keeps to the limit and stays inside its
stream, and the channel gets the message, once. -/
structure ArrivesIntact (svc_plugin_send : STREAM → Nat) (OnDataReceived : Nat → List UInt8 → Int)
    (channels : List DVCMAN_CHANNEL) (ChannelId : UInt32) (data : List UInt8) : Prop where
  short : ∀ pdu ∈ (drdynvc_write_data svc_plugin_send ChannelId data).2,
    stream_get_length pdu ≤ CHANNEL_CHUNK_LENGTH
  inside : ∀ pdu ∈ (drdynvc_write_data svc_plugin_send ChannelId data).2, pdu.pos ≤ pdu.size
  delivered : ((drdynvc_write_data svc_plugin_send ChannelId data).2.map
      fun pdu => stream_of (pdu_bytes pdu)).foldlM (drdynvc_process_receive OnDataReceived)
        channels =
    some (change_channel channels ChannelId.toNat fun channel =>
      { channel with received := channel.received ++ [data] })

/-- The bytes of the header of a data PDU: one, and the channel. -/
def headerLength (ChannelId : UInt32) : Nat :=
  1 + if ChannelId.toNat ≤ 0xFF then 1 else if ChannelId.toNat ≤ 0xFFFF then 2 else 4

theorem length_dataHeader_eq : (dataHeader ChannelId).length = headerLength ChannelId := by
  unfold dataHeader headerLength
  rw [length_cons, length_variableUint, Nat.add_comm]

section

variable {svc_plugin_send : STREAM → Nat} (OnDataReceived : Nat → Bytes → Int)
  {channels : List DVCMAN_CHANNEL} {channel : DVCMAN_CHANNEL} {ChannelId : UInt32}
  {data : Bytes} (hsend : ∀ s, svc_plugin_send s = CHANNEL_RC_OK)
  (hopen : dvcman_find_channel_by_id channels ChannelId.toNat = some channel)
  (hidle : channel.dvc_data = none)

include hopen hidle

theorem delivery_eq : change_channel channels ChannelId.toNat (fun channel =>
      { channel with received := channel.received ++ [data] }) =
    withChannel channels ⟨channel.channel_id, none, channel.received ++ [data]⟩ := by
  unfold withChannel change_channel
  rw [changeFirst_found hopen, hidle, open_channel_id hopen]

include hsend

theorem short_message_intact_iff (hshort : data.length ≤ CHANNEL_CHUNK_LENGTH) :
    ArrivesIntact svc_plugin_send OnDataReceived channels ChannelId data ↔
      headerLength ChannelId + data.length ≤ CHANNEL_CHUNK_LENGTH := by
  have hwrite := drdynvc_write_data.one hsend ChannelId hshort
  have hlength : (pdu (dataHeader ChannelId ++ data)).pos =
      headerLength ChannelId + data.length := by
    rw [pdu_pos, length_append, length_dataHeader_eq]
  unfold CHANNEL_CHUNK_LENGTH at hshort
  constructor
  · intro harrives
    have hpdus := harrives.short
    rw [hwrite] at hpdus
    have hpdu := hpdus _ mem_cons_self
    rwa [stream_get_length, hlength] at hpdu
  · intro hroom
    rw [← hlength] at hroom
    have hmessage := pieces_received_apart OnDataReceived hopen channel (open_channel_id hopen)
      hidle [data] (by
        intro p hp
        rw [mem_singleton.mp hp]
        omega)
    rw [withChannel_same hopen, hidle] at hmessage
    refine ⟨?_, ?_, ?_⟩
    · rw [hwrite]
      intro p hp
      rw [mem_singleton.mp hp]
      exact hroom
    · rw [hwrite]
      intro p hp
      rw [mem_singleton.mp hp]
      exact hroom
    · rw [hwrite, delivery_eq hopen hidle]
      simp only [map_cons, map_nil, pdu_bytes_pdu] at hmessage ⊢
      exact hmessage

theorem long_message_intact_iff (hlong : CHANNEL_CHUNK_LENGTH < data.length)
    (hsize : data.length < 2 ^ 32) :
    ArrivesIntact svc_plugin_send OnDataReceived channels ChannelId data ↔
      data.length < 2 ^ 31 := by
  have hid := open_channel_id hopen
  obtain ⟨piece, pieces, hwrite, hflat, hfirst, hpieces⟩ :=
    drdynvc_write_data.more hsend ChannelId hlong
  have hfirstHeader := length_firstHeader ChannelId data.length
  have hlength : piece.length + pieces.flatten.length = data.length := by
    rw [← hflat, length_append]
  have hbytes : (drdynvc_write_data svc_plugin_send ChannelId data).2.map
      (fun pdu => stream_of (pdu_bytes pdu)) =
      stream_of (firstHeader ChannelId data.length ++ piece) ::
        pieces.map fun piece => stream_of (dataHeader ChannelId ++ piece) := by
    rw [hwrite]
    simp
  have hpdus : ∀ pdu ∈ (drdynvc_write_data svc_plugin_send ChannelId data).2,
      pdu.pos ≤ CHANNEL_CHUNK_LENGTH ∧ pdu.size = CHANNEL_CHUNK_LENGTH := by
    rw [hwrite]
    intro p hp
    rcases mem_cons.mp hp with rfl | hp
    · simp [hfirst]
    · obtain ⟨piece, hpiece, rfl⟩ := mem_map.mp hp
      simp [(hpieces piece hpiece).2]
  unfold CHANNEL_CHUNK_LENGTH at hfirst hlong
  constructor
  · -- A message that is given up comes out in pieces.
    intro harrives
    by_contra hhuge
    have hdelivered := harrives.delivered
    have hgiven := huge_message_given_up OnDataReceived hopen (by omega : 0x400 < piece.length)
      (by omega) (by omega : 2 ^ 31 ≤ data.length) hsize
    have hapart := pieces_received_apart OnDataReceived hopen
      { channel with dvc_data := none } hid rfl pieces fun p hp => by
        have hp' := (hpieces p hp).2
        unfold CHANNEL_CHUNK_LENGTH at hp'
        omega
    rw [hbytes, foldlM_cons, hgiven, delivery_eq hopen hidle] at hdelivered
    have hsame := Option.some.inj (hapart.symm.trans hdelivered)
    have hfound := find_withChannel hopen
      ⟨channel.channel_id, none, channel.received ++ pieces⟩ hid
    rw [hsame, find_withChannel hopen
      ⟨channel.channel_id, none, channel.received ++ [data]⟩ hid] at hfound
    have hpieces' : [data] = pieces := by simpa using hfound
    rw [← hpieces'] at hlength
    simp only [flatten_cons, flatten_nil, append_nil] at hlength
    omega
  · intro hint
    refine ⟨fun p hp => (hpdus p hp).1, fun p hp => ?_, ?_⟩
    · rw [(hpdus p hp).2]
      exact (hpdus p hp).1
    · have htogether := pieces_received_together OnDataReceived hopen
        { channel with dvc_data := some (stream_new (int data.length)) } hid rfl
        (filling_new (by omega) hint) (piece :: pieces)
        (by
          intro p hp
          rcases mem_cons.mp hp with rfl | hp
          · omega
          · exact (hpieces p hp).1)
        (by rw [flatten_cons, hflat, length_nil, Nat.zero_add])
        (by rw [length_nil]; omega) (by omega)
      rw [hbytes, foldlM_cons,
        first_pdu_received OnDataReceived hopen (by omega) (by omega), delivery_eq hopen hidle]
      rw [map_cons, foldlM_cons, flatten_cons, hflat, nil_append]
        at htogether
      exact htogether

end

/-- For every channel that the peer has open, without a message in progress, and every message: it
arrives intact exactly when it leaves room for the header in one PDU or is over the limit, and its
length is an `int`. -/
theorem message_arrives_intact_iff (svc_plugin_send : STREAM → Nat)
    (OnDataReceived : Nat → List UInt8 → Int) (channels : List DVCMAN_CHANNEL)
    (channel : DVCMAN_CHANNEL) (ChannelId : UInt32) (data : List UInt8)
    (hsend : ∀ s, svc_plugin_send s = CHANNEL_RC_OK)
    (hopen : dvcman_find_channel_by_id channels ChannelId.toNat = some channel)
    (hidle : channel.dvc_data = none) (hsize : data.length < 2 ^ 32) :
    ArrivesIntact svc_plugin_send OnDataReceived channels ChannelId data ↔
      (headerLength ChannelId + data.length ≤ CHANNEL_CHUNK_LENGTH ∨
        CHANNEL_CHUNK_LENGTH < data.length) ∧ data.length < 2 ^ 31 := by
  by_cases hlong : CHANNEL_CHUNK_LENGTH < data.length
  · rw [long_message_intact_iff OnDataReceived hsend hopen hidle hlong hsize]
    simp [hlong]
  · have hint : data.length < 2 ^ 31 := by
      unfold CHANNEL_CHUNK_LENGTH at hlong
      omega
    rw [short_message_intact_iff OnDataReceived hsend hopen hidle (Nat.le_of_not_lt hlong)]
    simp only [hlong, or_false, hint, and_true]

theorem short_message_arrives : ArrivesIntact (fun _ => CHANNEL_RC_OK) (fun _ _ => 0)
    [⟨300, none, []⟩] 300 [1, 2, 3] :=
  (message_arrives_intact_iff (fun _ => CHANNEL_RC_OK) (fun _ _ => 0) [⟨300, none, []⟩]
    ⟨300, none, []⟩ 300 [1, 2, 3] (fun _ => rfl) (by decide) rfl (by decide)).mpr
    ⟨Or.inl (by decide), by decide⟩

/-- A message of 1599 bytes goes out in one PDU of 1601 bytes, in a stream of 1600. -/
theorem message_overruns_its_stream : ¬ ArrivesIntact (fun _ => CHANNEL_RC_OK) (fun _ _ => 0)
    [⟨1, none, []⟩] 1 (replicate 1599 0) := by
  intro harrives
  have hinside := harrives.inside
  have hlength : (replicate 1599 (0 : UInt8)).length ≤ CHANNEL_CHUNK_LENGTH := by
    rw [length_replicate]
    exact Nat.le_succ 1599
  rw [drdynvc_write_data.one (fun _ => rfl) 1 hlength] at hinside
  have hpdu := hinside _ mem_cons_self
  have hheader : (dataHeader 1).length = 2 := by decide
  rw [pdu_pos, pdu_size, length_append, hheader, length_replicate] at hpdu
  exact absurd hpdu (by decide)

end neutrinordp.drdynvc

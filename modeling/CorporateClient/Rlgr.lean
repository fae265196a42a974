-- The entropy coder of RemoteFX (rfx_rlgr.c). Runs of zeros and Golomb-Rice codes take turns, and
-- both sides adapt two parameters as they go. The encoder and the decoder are two programs.
import CorporateClient.RfxBitstream

namespace neutrinordp.rfx

inductive RLGR_MODE
  | RLGR1
  | RLGR3
deriving Repr, DecidableEq

def KPMAX : Nat := 80
def LSGR : Nat := 3
def UP_GR : Int := 4
def DN_GR : Int := 6
def UQ_GR : Int := 3
def DQ_GR : Int := 3

/-- A parameter (`kp` or `krp`) with its shift (`k` or `kr`). Both are always set together. -/
structure Param where
  param : Nat
  k : Nat
  le : param ≤ KPMAX
  shift : k = param >>> LSGR
deriving DecidableEq

def param_start : Param := ⟨1 <<< LSGR, 1, by decide, by decide⟩

/-- The sum, brought back into the range from 0 to `KPMAX`. -/
def clamp (param : Int) : Nat :=
  let param := if param > KPMAX then (KPMAX : Int) else param
  let param := if param < 0 then 0 else param
  param.toNat

theorem clamp_le (param : Int) : clamp param ≤ KPMAX := by
  unfold clamp KPMAX
  dsimp only
  split <;> split <;> omega

def UpdateParam (p : Param) (deltaP : Int) : Param where
  param := clamp (p.param + deltaP)
  k := clamp (p.param + deltaP) >>> LSGR
  le := clamp_le _
  shift := rfl

/-- A cast to `sint16`. -/
def sint16 (v : Int) : Int := (BitVec.ofInt 16 v).toInt

/-- The loop counts the bits of a `uint32`. -/
def min_bits_loop : Nat → Nat → Nat
  | 0, _ => 0
  | turns + 1, v => if v ≠ 0 then min_bits_loop turns (v >>> 1) + 1 else 0

def GetMinBits (val : Nat) : Nat := min_bits_loop 32 val

/-- The argument is a `uint32`. -/
def GetIntFrom2MagSign (twoMs : Nat) : Int :=
  if twoMs &&& 1 ≠ 0 then -1 * sint16 (((twoMs + 1) % 4294967296) >>> 1 : Nat)
  else sint16 (twoMs >>> 1 : Nat)

def Get2MagSign (input : Int) : Nat :=
  (if input ≥ 0 then 2 * input else -2 * input - 1).toNat

/-! ## The decoder -/

/-- `out` has the values that were written to the buffer, and `buffer_size` counts down from its
size. -/
structure Decoder where
  bs : RFX_BITSTREAM
  kp : Param
  krp : Param
  buffer_size : Int
  out : List Int

def GetBits (nBits : Nat) (d : Decoder) : Nat × Decoder :=
  let (r, bs) := rfx_bitstream_get_bits nBits d.bs
  (r, { d with bs })

def WriteValue (value : Int) (d : Decoder) : Decoder :=
  { d with
    out := if d.buffer_size > 0 then d.out ++ [sint16 value] else d.out
    buffer_size := d.buffer_size - 1 }

def WriteZeroes (nZeroes : Nat) (d : Decoder) : Decoder :=
  let nZeroesWritten : Int := if nZeroes > d.buffer_size then d.buffer_size else nZeroes
  { d with
    out := if nZeroesWritten > 0 then d.out ++ List.replicate nZeroesWritten.toNat 0 else d.out
    buffer_size := d.buffer_size - nZeroes }

/-- The leading 1s and the 0 behind them. A turn takes a bit, and at the end of the stream it
reads a 0. -/
def leading_ones : Nat → Nat → Decoder → Nat × Decoder
  | 0, vk, d => (vk, d)
  | turns + 1, vk, d =>
    let (r, d) := GetBits 1 d
    if r = 1 then leading_ones turns (vk + 1) d else (vk, d)

def GetGRCode (d : Decoder) : Nat × Decoder :=
  let (vk, d) := leading_ones (rfx_bitstream_left d.bs + 1) 0 d
  let (mag, d) := GetBits d.krp.k d
  let mag := (mag ||| (vk <<< d.krp.k)) % 65536
  if vk = 0 then (mag, { d with krp := UpdateParam d.krp (-2) })
  else if vk ≠ 1 then (mag, { d with krp := UpdateParam d.krp vk })
  else (mag, d)

/-- The runs of zeros in front of a value. A turn takes a bit, so there are never more turns than
bits. -/
def zero_runs : Nat → Decoder → Decoder
  | 0, d => d
  | turns + 1, d =>
    if rfx_bitstream_eos d.bs then d
    else
      let (r, d) := GetBits 1 d
      if r ≠ 0 then d
      else
        let d := WriteZeroes (1 <<< d.kp.k) d
        zero_runs turns { d with kp := UpdateParam d.kp UP_GR }

def run_end (d : Decoder) : Decoder :=
  let (run, d) := GetBits d.kp.k d
  let d := WriteZeroes run d
  let (sign, d) := GetBits 1 d
  let (mag16, d) := GetGRCode d
  let mag : Int := mag16 + 1
  let d := WriteValue (if sign ≠ 0 then -mag else mag) d
  { d with kp := UpdateParam d.kp (-DN_GR) }

def decode_run (d : Decoder) : Decoder := run_end (zero_runs (rfx_bitstream_left d.bs) d)

def decode_value (d : Decoder) : Decoder :=
  let (mag, d) := GetGRCode d
  if mag = 0 then
    let d := WriteValue 0 d
    { d with kp := UpdateParam d.kp UQ_GR }
  else
    let d := WriteValue (GetIntFrom2MagSign mag) d
    { d with kp := UpdateParam d.kp (-DQ_GR) }

/-- The new `kp` after two values. -/
def update_pair (kp : Param) (val1 val2 : Nat) : Param :=
  if val1 ≠ 0 ∧ val2 ≠ 0 then UpdateParam kp (-2 * DQ_GR)
  else if val1 = 0 ∧ val2 = 0 then UpdateParam kp (2 * UQ_GR)
  else kp

/-- `val2` is a `uint32`. -/
def decode_pair (d : Decoder) : Decoder :=
  let (mag, d) := GetGRCode d
  let nIdx := GetMinBits mag
  let (val1, d) := GetBits nIdx d
  let val2 := (((mag : Int) - val1) % 4294967296).toNat
  let d := { d with kp := update_pair d.kp val1 val2 }
  let d := WriteValue (GetIntFrom2MagSign val1) d
  WriteValue (GetIntFrom2MagSign val2) d

def decode_turn (mode : RLGR_MODE) (d : Decoder) : Decoder :=
  if d.kp.k ≠ 0 then decode_run d
  else match mode with
    | .RLGR1 => decode_value d
    | .RLGR3 => decode_pair d

/-- `none` is a loop that has not ended. -/
def decode_loop (mode : RLGR_MODE) : Nat → Decoder → Option Decoder
  | 0, _ => none
  | turns + 1, d =>
    if rfx_bitstream_eos d.bs = false ∧ d.buffer_size > 0 then
      decode_loop mode turns (decode_turn mode d)
    else some d

def rfx_rlgr_decode (mode : RLGR_MODE) (data : List UInt8) (buffer_size : Int) :
    Option (Nat × List Int) :=
  let d : Decoder :=
    { bs := rfx_bitstream_attach data, kp := param_start, krp := param_start, buffer_size
      out := [] }
  (decode_loop mode (8 * data.length + 1) d).map fun d => (d.out.length, d.out)

/-! ## The encoder

The encoder never reads its stream back, so its work is a list of calls of
`rfx_bitstream_put_bits`. -/

/-- A call of `rfx_bitstream_put_bits`. -/
structure Put where
  bits : Nat
  nbits : Nat
deriving Repr, DecidableEq

def OutputBits (numBits bitPattern : Nat) : List Put := [⟨bitPattern, numBits⟩]

def output_bit_loop : Nat → Nat → Nat → List Put
  | 0, _, _ => []
  | turns + 1, b, c =>
    if c > 0 then ⟨b, if c > 16 then 16 else c⟩ :: output_bit_loop turns b (c - 16) else []

def OutputBit (count : Nat) (bit : Bool) : List Put :=
  output_bit_loop count (if bit then 0xFFFF else 0) count

def rfx_rlgr_code_gr (krp : Param) (val : Nat) : List Put × Param :=
  let kr := krp.param >>> LSGR
  let vk := val >>> kr
  let calls := OutputBit vk true ++ OutputBit 1 false ++
    if kr ≠ 0 then OutputBits kr (val &&& ((1 <<< kr) - 1)) else []
  (calls,
    if vk = 0 then UpdateParam krp (-2) else if vk > 1 then UpdateParam krp vk else krp)

/-- The parameters of the encoder. -/
structure Encoder where
  kp : Param
  krp : Param
deriving DecidableEq

/-- The zeros in front of a value, and what is left behind it. The last input is taken as the
value, whatever it is. -/
def collect_zeros : List Int → Nat × Int × List Int
  | [] => (0, 0, [])
  | input :: data =>
    if input = 0 ∧ data.length > 0 then
      let (numZeros, input, data) := collect_zeros data
      (numZeros + 1, input, data)
    else (0, input, data)

/-- A bit for each run of `runmax` zeros. Each turn takes a zero at least. -/
def emit_zeros : Nat → Nat → Param → List Put × Nat × Param
  | 0, numZeros, kp => ([], numZeros, kp)
  | turns + 1, numZeros, kp =>
    let runmax := 1 <<< kp.k
    if numZeros ≥ runmax then
      let (calls, numZeros, kp) := emit_zeros turns (numZeros - runmax) (UpdateParam kp UP_GR)
      (OutputBit 1 false ++ calls, numZeros, kp)
    else ([], numZeros, kp)

def encode_run (e : Encoder) (data : List Int) : List Put × Encoder × List Int :=
  let (numZeros, input, data) := collect_zeros data
  let (zeros, numZeros, kp) := emit_zeros numZeros numZeros e.kp
  let mag := (if input < 0 then -input else input).toNat
  let sign := decide (input < 0)
  let (code, krp) := rfx_rlgr_code_gr e.krp (if mag ≠ 0 then mag - 1 else 0)
  (zeros ++ OutputBit 1 true ++ OutputBits kp.k numZeros ++ OutputBit 1 sign ++ code,
    { kp := UpdateParam kp (-DN_GR), krp }, data)

/-- The next input, and 0 at the end. -/
def GetNextInput : List Int → Int × List Int
  | [] => (0, [])
  | input :: data => (input, data)

def encode_value (e : Encoder) (data : List Int) : List Put × Encoder × List Int :=
  let (input, data) := GetNextInput data
  let twoMs := Get2MagSign input
  let (code, krp) := rfx_rlgr_code_gr e.krp twoMs
  let kp := if twoMs ≠ 0 then UpdateParam e.kp (-DQ_GR) else UpdateParam e.kp UQ_GR
  (code, { kp, krp }, data)

def encode_pair (e : Encoder) (data : List Int) : List Put × Encoder × List Int :=
  let (input, data) := GetNextInput data
  let twoMs1 := Get2MagSign input
  let (input, data) := GetNextInput data
  let twoMs2 := Get2MagSign input
  let sum2Ms := twoMs1 + twoMs2
  let (code, krp) := rfx_rlgr_code_gr e.krp sum2Ms
  let nIdx := GetMinBits sum2Ms
  (code ++ OutputBits nIdx twoMs1, { kp := update_pair e.kp twoMs1 twoMs2, krp }, data)

def encode_turn (mode : RLGR_MODE) (e : Encoder) (data : List Int) :
    List Put × Encoder × List Int :=
  if e.kp.k ≠ 0 then encode_run e data
  else match mode with
    | .RLGR1 => encode_value e data
    | .RLGR3 => encode_pair e data

def encode_loop (mode : RLGR_MODE) : Nat → Encoder → List Int → List Put
  | 0, _, _ => []
  | turns + 1, e, data =>
    if data.length > 0 then
      let (calls, e, data) := encode_turn mode e data
      calls ++ encode_loop mode turns e data
    else []

def encode_calls (mode : RLGR_MODE) (data : List Int) : List Put :=
  encode_loop mode data.length ⟨param_start, param_start⟩ data

def put_all (bs : RFX_BITSTREAM) (calls : List Put) : RFX_BITSTREAM :=
  calls.foldl (fun bs call => rfx_bitstream_put_bits bs call.bits call.nbits) bs

def rfx_rlgr_encode (mode : RLGR_MODE) (data : List Int) (buffer : List UInt8) : Nat × List UInt8 :=
  let bs := put_all (rfx_bitstream_attach buffer) (encode_calls mode data)
  (rfx_bitstream_get_processed_bytes bs, bs.buffer)

/-- Every call finds room for all its bits. -/
def DropsNoBit : RFX_BITSTREAM → List Put → Prop
  | _, [] => True
  | bs, call :: calls =>
    call.nbits ≤ rfx_bitstream_left bs ∧
      DropsNoBit (rfx_bitstream_put_bits bs call.bits call.nbits) calls

instance instDecidableDropsNoBit :
    (bs : RFX_BITSTREAM) → (calls : List Put) → Decidable (DropsNoBit bs calls)
  | _, [] => inferInstanceAs (Decidable True)
  | bs, call :: calls =>
    have := instDecidableDropsNoBit (rfx_bitstream_put_bits bs call.bits call.nbits) calls
    inferInstanceAs (Decidable (call.nbits ≤ rfx_bitstream_left bs ∧ _))

end neutrinordp.rfx

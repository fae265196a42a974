-- The orders of the run-length codec. A list of orders is drawn pixel by pixel by a small
-- interpreter, and the decoder gives the same picture from the bytes of the orders. A source
-- that the decoder gets through is always such a list.
import CorporateClient.BitmapRle

open List bytes

namespace neutrinordp.bitmap

/-! ## Orders and their bytes -/

inductive Kind
  | background
  | foreground
  | setForeground
  | dithered
  | color
  | fgbg
  | setFgbg
  | colorImage
deriving Repr, DecidableEq

/-- The three ways to write a length. -/
inductive Form
  | short
  | mega
  | megaMega
deriving Repr, DecidableEq

def Kind.short : Kind → Code
  | .background => .REGULAR_BG_RUN
  | .foreground => .REGULAR_FG_RUN
  | .setForeground => .LITE_SET_FG_FG_RUN
  | .dithered => .LITE_DITHERED_RUN
  | .color => .REGULAR_COLOR_RUN
  | .fgbg => .REGULAR_FGBG_IMAGE
  | .setFgbg => .LITE_SET_FG_FGBG_IMAGE
  | .colorImage => .REGULAR_COLOR_IMAGE

def Kind.megaMega : Kind → Code
  | .background => .MEGA_MEGA_BG_RUN
  | .foreground => .MEGA_MEGA_FG_RUN
  | .setForeground => .MEGA_MEGA_SET_FG_RUN
  | .dithered => .MEGA_MEGA_DITHERED_RUN
  | .color => .MEGA_MEGA_COLOR_RUN
  | .fgbg => .MEGA_MEGA_FGBG_IMAGE
  | .setFgbg => .MEGA_MEGA_SET_FGBG_IMAGE
  | .colorImage => .MEGA_MEGA_COLOR_IMAGE

def Kind.code (kind : Kind) : Form → Code
  | .megaMega => kind.megaMega
  | _ => kind.short

/-- The short code has four bits, and the length the other four. -/
def Kind.lite : Kind → Bool
  | .setForeground | .dithered | .setFgbg => true
  | _ => false

/-- The length counts bits, in steps of 8 in the short form. -/
def Kind.image : Kind → Bool
  | .fgbg | .setFgbg => true
  | _ => false

/-- The bits of the length in the header. -/
def Kind.lengthBits (kind : Kind) : Nat := if kind.lite then 4 else 5

/-- The smallest length of the mega form. -/
def Kind.extra (kind : Kind) : Nat := if kind.image then 1 else if kind.lite then 16 else 32

/-- An order with a length. The pixels and the bit masks stand behind the header. -/
structure RunOrder where
  kind : Kind
  form : Form
  length : Nat
  pels : List Nat
  masks : List UInt8
deriving Repr, DecidableEq

inductive Order
  | run (run : RunOrder)
  | fgbg1
  | fgbg2
  | white
  | black
deriving Repr, DecidableEq

/-- The header byte of the short code with a number in its low bits. -/
def Kind.headerByte (kind : Kind) (low : Nat) : UInt8 :=
  UInt8.ofNat (kind.short.value <<< kind.lengthBits ||| low)

def header (kind : Kind) (length : Nat) : Form → List UInt8
  | .short => [kind.headerByte (if kind.image then length / 8 else length)]
  | .mega => [kind.headerByte 0, UInt8.ofNat (length - kind.extra)]
  | .megaMega => UInt8.ofNat kind.megaMega.value :: le16 length

/-- The length can be written in the form. -/
def Fits (kind : Kind) (length : Nat) : Form → Prop
  | .short =>
    if kind.image then length % 8 = 0 ∧ 1 ≤ length / 8 ∧ length / 8 < 2 ^ kind.lengthBits
    else 1 ≤ length ∧ length < 2 ^ kind.lengthBits
  | .mega => kind.extra ≤ length ∧ length < kind.extra + 256
  | .megaMega => length < 65536

instance (kind : Kind) (length : Nat) (form : Form) : Decidable (Fits kind length form) := by
  cases form <;> unfold Fits <;> infer_instance

def pixelBytes (d : Depth) (pels : List Nat) : List UInt8 := pels.flatMap (leBytes d.bytes)

def RunOrder.encode (d : Depth) (o : RunOrder) : List UInt8 :=
  header o.kind o.length o.form ++ (pixelBytes d o.pels ++ o.masks)

def Order.encode (d : Depth) : Order → List UInt8
  | .run o => o.encode d
  | .fgbg1 => [0xF9]
  | .fgbg2 => [0xFA]
  | .white => [0xFD]
  | .black => [0xFE]

/-- The pixels behind a header. -/
def Kind.pelCount (kind : Kind) (length : Nat) : Nat :=
  match kind with
  | .background | .foreground | .fgbg => 0
  | .setForeground | .color | .setFgbg => 1
  | .dithered => 2
  | .colorImage => length

/-- The bit masks behind a header. -/
def Kind.maskCount (kind : Kind) (length : Nat) : Nat := if kind.image then (length + 7) / 8 else 0

structure RunOrder.Valid (d : Depth) (o : RunOrder) : Prop where
  fits : Fits o.kind o.length o.form
  pels : o.pels.length = o.kind.pelCount o.length
  range : ∀ pel ∈ o.pels, pel < 256 ^ d.bytes
  masks : o.masks.length = o.kind.maskCount o.length

instance (d : Depth) (o : RunOrder) : Decidable (o.Valid d) :=
  decidable_of_iff (Fits o.kind o.length o.form ∧ o.pels.length = o.kind.pelCount o.length ∧
      (∀ pel ∈ o.pels, pel < 256 ^ d.bytes) ∧ o.masks.length = o.kind.maskCount o.length)
    ⟨fun h => ⟨h.1, h.2.1, h.2.2.1, h.2.2.2⟩, fun h => ⟨h.fits, h.pels, h.range, h.masks⟩⟩

def Order.Valid (d : Depth) : Order → Prop
  | .run o => o.Valid d
  | _ => True

instance (d : Depth) (o : Order) : Decidable (o.Valid d) := by
  cases o <;> unfold Order.Valid <;> infer_instance

/-! ## Pictures -/

/-- A pixel of an order: a colour of its own, or one that is laid over the pixel above by XOR. -/
inductive Paint
  | plain (v : Nat)
  | over (v : Nat)
deriving Repr, DecidableEq

/-- The bits of a mask, the low bit first. -/
def maskBits (mask : UInt8) : List Bool := mask_bits.map fun bit => mask &&& bit ≠ 0

def bitPaint (fg : Nat) (bit : Bool) : Paint := .over (if bit then fg else 0)

/-- The pixels of a run, with the foreground pixel that counts for it. -/
def RunOrder.paints (o : RunOrder) (fg : Nat) (insert : Bool) : List Paint :=
  match o.kind with
  | .background =>
    if insert then .over fg :: replicate (o.length - 1) (.over 0)
    else replicate o.length (.over 0)
  | .foreground | .setForeground => replicate o.length (.over fg)
  | .dithered =>
    (replicate o.length [.plain (o.pels.getD 0 0), .plain (o.pels.getD 1 0)]).flatten
  | .color => replicate o.length (.plain (o.pels.getD 0 0))
  | .fgbg | .setFgbg => ((o.masks.flatMap maskBits).take o.length).map (bitPaint fg)
  | .colorImage => o.pels.map .plain

def Order.paints (o : Order) (fg : Nat) (insert : Bool) : List Paint :=
  match o with
  | .run o => o.paints fg insert
  | .fgbg1 => (maskBits 0x03).map (bitPaint fg)
  | .fgbg2 => (maskBits 0x05).map (bitPaint fg)
  | .white => [.plain WHITE_PIXEL]
  | .black => [.plain BLACK_PIXEL]

/-- The foreground pixel that an order sets. -/
def Order.foreground (o : Order) (fg : Nat) : Nat :=
  match o with
  | .run o => if o.kind = .setForeground ∨ o.kind = .setFgbg then o.pels.getD 0 0 else fg
  | _ => fg

def Order.isBackground : Order → Bool
  | .run o => o.kind = .background
  | _ => false

def Order.pixelCount (o : Order) : Nat :=
  match o with
  | .run o => if o.kind = .dithered then 2 * o.length else o.length
  | .fgbg1 | .fgbg2 => 8
  | .white | .black => 1

/-- The value of the next pixel of a picture. On the first line black is above. -/
def paintValue (width : Nat) (first : Bool) (pixels : List Nat) : Paint → Nat
  | .plain v => v
  | .over v => if first then v else pixels.getD (pixels.length - width) 0 ^^^ v

def draw (d : Depth) (width : Nat) (first : Bool) (pixels : List Nat) (paints : List Paint) :
    List Nat :=
  paints.foldl (fun pixels paint =>
    pixels ++ [paintValue width first pixels paint % 2 ^ (8 * d.bytes)]) pixels

/-- The pixels so far, the foreground pixel, and for a background run as the last order whether
it was on the first line. -/
structure Picture where
  pixels : List Nat
  fg : Nat
  lastBackground : Option Bool
deriving Repr, DecidableEq

def emptyPicture : Picture := ⟨[], WHITE_PIXEL, none⟩

def Picture.add (d : Depth) (width : Nat) (p : Picture) (o : Order) : Picture :=
  let first := decide (p.pixels.length < width)
  let fg := o.foreground p.fg
  { pixels := draw d width first p.pixels (o.paints fg (p.lastBackground = some first))
    fg
    lastBackground := if o.isBackground then some first else none }

/-- The picture of a list of orders. -/
def interpret (d : Depth) (width : Nat) (orders : List Order) : Picture :=
  orders.foldl (Picture.add d width) emptyPicture

/-! ## Writes -/

def paint_all (t : Target) (paints : List Paint) (s : Rle) : Except Fault Rle :=
  paints.foldlM (fun s paint => put_pixel t (paintValue t.width s.fFirstLine s.dest paint) s) s

variable {t : Target} {s s' : Rle} {kind : Kind} {n k : Nat} {b : UInt8} {rest src : Bytes}

theorem put_pixel_ok {v : Nat} (h : s.dest.length < t.pixels) :
    put_pixel t v s = .ok { s with dest := s.dest ++ [v % 2 ^ (8 * t.depth.bytes)] } := if_pos h

theorem length_draw (d : Depth) (width : Nat) (first : Bool) (pixels : List Nat)
    (paints : List Paint) :
    (draw d width first pixels paints).length = pixels.length + paints.length := by
  unfold draw
  induction paints generalizing pixels with
  | nil => rfl
  | cons paint paints ih =>
    rw [foldl_cons, ih, length_append, length_singleton, length_cons]
    omega

theorem paint_all.spec (t : Target) (paints : List Paint) (s : Rle)
    (hs : s.dest.length ≤ t.pixels) :
    paint_all t paints s =
      if s.dest.length + paints.length ≤ t.pixels then
        .ok { s with dest := draw t.depth t.width s.fFirstLine s.dest paints }
      else .error .dstOverrun := by
  induction paints generalizing s with
  | nil =>
    rw [if_pos (by simpa using hs)]
    rfl
  | cons paint paints ih =>
    unfold paint_all
    rw [foldlM_cons, length_cons]
    by_cases hroom : s.dest.length < t.pixels
    · have hlen : (s.dest ++ [paintValue t.width s.fFirstLine s.dest paint %
          2 ^ (8 * t.depth.bytes)]).length = s.dest.length + 1 := by
        rw [length_append, length_singleton]
      rw [put_pixel_ok hroom]
      refine (ih _ (by dsimp only; omega)).trans ?_
      rw [hlen, Nat.add_assoc, Nat.add_comm 1]
      rfl
    · rw [if_neg (by omega), put_pixel, if_neg hroom]
      rfl

theorem paint_all_cons (t : Target) (paint : Paint) (paints : List Paint) (s : Rle) :
    paint_all t (paint :: paints) s =
      (put_pixel t (paintValue t.width s.fFirstLine s.dest paint) s).bind
        (paint_all t paints) := rfl

theorem paint_all_append (t : Target) (a b : List Paint) (s : Rle) :
    paint_all t (a ++ b) s = (paint_all t a s).bind (paint_all t b) :=
  foldlM_append

/-- What painting does not touch. -/
structure SameRest (s s' : Rle) : Prop where
  pbSrc : s'.pbSrc = s.pbSrc
  fgPel : s'.fgPel = s.fgPel
  fInsertFgPel : s'.fInsertFgPel = s.fInsertFgPel
  fFirstLine : s'.fFirstLine = s.fFirstLine

theorem put_pixel_same {v : Nat} (h : put_pixel t v s = .ok s') : SameRest s s' := by
  unfold put_pixel at h
  split at h
  · cases h
    exact ⟨rfl, rfl, rfl, rfl⟩
  · cases h

theorem SameRest.trans {s1 s2 : Rle} (h : SameRest s s1) (h' : SameRest s1 s2) : SameRest s s2 :=
  ⟨h'.pbSrc.trans h.pbSrc, h'.fgPel.trans h.fgPel, h'.fInsertFgPel.trans h.fInsertFgPel,
    h'.fFirstLine.trans h.fFirstLine⟩

theorem paint_all_same {paints : List Paint} (h : paint_all t paints s = .ok s') :
    SameRest s s' := by
  induction paints generalizing s with
  | nil =>
    cases h
    exact ⟨rfl, rfl, rfl, rfl⟩
  | cons paint paints ih =>
    rw [paint_all_cons] at h
    cases hput : put_pixel t (paintValue t.width s.fFirstLine s.dest paint) s with
    | error f =>
      rw [hput] at h
      cases h
    | ok s1 =>
      rw [hput] at h
      exact (put_pixel_same hput).trans (ih h)

theorem paint_one (t : Target) (paint : Paint) (s : Rle) :
    paint_all t [paint] s = put_pixel t (paintValue t.width s.fFirstLine s.dest paint) s := by
  rw [paint_all_cons]
  cases put_pixel t (paintValue t.width s.fFirstLine s.dest paint) s <;> rfl

theorem bg_pixel_eq (t : Target) (s : Rle) : bg_pixel t s = paint_all t [.over 0] s := by
  rw [paint_one, paintValue, Nat.xor_zero]
  rfl

theorem fg_pixel_eq (t : Target) (s : Rle) : fg_pixel t s = paint_all t [.over s.fgPel] s := by
  rw [paint_one]
  rfl

theorem unroll_eq (step : Rle → Except Fault Rle) (n : Nat) (s : Rle) :
    unroll step n s = rest_loop step n s := by
  induction n using Nat.strongRecOn generalizing s with
  | ind n ih =>
    match n with
    | 0 | 1 | 2 | 3 => rfl
    | n + 4 =>
      unfold unroll
      simp only [ih n (by omega)]
      rfl

theorem unroll_paint {step : Rle → Except Fault Rle} {paints : List Paint} {fg : Nat}
    (hstep : ∀ s, s.fgPel = fg → step s = paint_all t paints s) (n : Nat) (s : Rle)
    (hs : s.fgPel = fg) :
    unroll step n s = paint_all t (replicate n paints).flatten s := by
  rw [unroll_eq]
  induction n generalizing s with
  | zero => rfl
  | succ n ih =>
    rw [replicate_succ, flatten_cons, paint_all_append, rest_loop, hstep s hs]
    cases hall : paint_all t paints s with
    | error f => rfl
    | ok s' => exact ih s' ((paint_all_same hall).fgPel.trans hs)

theorem unroll_paint_one {step : Rle → Except Fault Rle} {paint : Paint} {fg : Nat}
    (hstep : ∀ s, s.fgPel = fg → step s = paint_all t [paint] s) (n : Nat) (s : Rle)
    (hs : s.fgPel = fg) : unroll step n s = paint_all t (replicate n paint) s := by
  rw [unroll_paint hstep n s hs]
  congr 1
  induction n with
  | zero => rfl
  | succ n ih => rw [replicate_succ, flatten_cons, ih, replicate_succ]; rfl

theorem write_bits_cons (t : Target) (mask bit : UInt8) (bits : Bytes) (cBits : Nat)
    (s : Rle) :
    write_bits t mask (bit :: bits) cBits s =
      ((if mask &&& bit ≠ 0 then fg_pixel t s else bg_pixel t s).bind fun s =>
        if cBits - 1 > 0 then write_bits t mask bits (cBits - 1) s else pure s) := by
  rw [write_bits]
  split <;> rfl

theorem write_bits_eq (t : Target) (mask : UInt8) (bits : Bytes) (cBits : Nat) (s : Rle)
    (hc : 1 ≤ cBits) :
    write_bits t mask bits cBits s = paint_all t
      (((bits.map fun bit => decide (mask &&& bit ≠ 0)).take cBits).map (bitPaint s.fgPel)) s := by
  induction bits generalizing cBits s with
  | nil =>
    rw [map_nil, take_nil, map_nil]
    rfl
  | cons bit bits ih =>
    obtain ⟨n, rfl⟩ : ∃ n, cBits = n + 1 := ⟨cBits - 1, by omega⟩
    have hone : (if mask &&& bit ≠ 0 then fg_pixel t s else bg_pixel t s) =
        put_pixel t (paintValue t.width s.fFirstLine s.dest
          (bitPaint s.fgPel (decide (mask &&& bit ≠ 0)))) s := by
      by_cases hbit : mask &&& bit ≠ 0
      · rw [if_pos hbit, fg_pixel_eq, paint_one]
        simp [bitPaint, decide_eq_true hbit]
      · rw [if_neg hbit, bg_pixel_eq, paint_one]
        simp [bitPaint, decide_eq_false hbit]
    rw [map_cons, take_succ_cons, map_cons, paint_all_cons, write_bits_cons, hone]
    cases hput : put_pixel t (paintValue t.width s.fFirstLine s.dest
        (bitPaint s.fgPel (decide (mask &&& bit ≠ 0)))) s with
    | error f => rfl
    | ok s' =>
      show (if n + 1 - 1 > 0 then write_bits t mask bits (n + 1 - 1) s' else pure s') = _
      rw [Nat.add_sub_cancel]
      by_cases hn : n > 0
      · rw [if_pos hn, ih n s' hn, (put_pixel_same hput).fgPel]
        rfl
      · obtain rfl : n = 0 := by omega
        rfl

theorem WRITEFGBGIMAGE.spec (t : Target) (mask : UInt8) (cBits : Nat) (s : Rle)
    (hc : 1 ≤ cBits) :
    WRITEFGBGIMAGE t mask cBits s =
      paint_all t (((maskBits mask).take cBits).map (bitPaint s.fgPel)) s :=
  write_bits_eq t mask mask_bits cBits s hc

/-! ## Reads -/

theorem read_pixel.spec {pel : Nat} (h : s.pbSrc = leBytes t.depth.bytes pel ++ rest)
    (hpel : pel < 256 ^ t.depth.bytes) :
    read_pixel t s = .ok (pel, { s with pbSrc := rest }) := by
  have hlen : ¬ s.pbSrc.length < t.depth.bytes := by
    rw [h, length_append, length_leBytes]
    omega
  unfold read_pixel
  rw [if_neg hlen, h, take_left' (length_leBytes _ _), drop_left' (length_leBytes _ _),
    ofLe_leBytes hpel]

theorem read_pixel.inv {pel : Nat} (h : read_pixel t s = .ok (pel, s')) :
    ∃ rest, s.pbSrc = leBytes t.depth.bytes pel ++ rest ∧ pel < 256 ^ t.depth.bytes ∧
      s' = { s with pbSrc := rest } := by
  unfold read_pixel at h
  split at h
  · cases h
  · rename_i hlen
    cases h
    have htake : (s.pbSrc.take t.depth.bytes).length = t.depth.bytes := by
      rw [length_take]
      omega
    have hpel := ofLe_lt (s.pbSrc.take t.depth.bytes)
    have hback := leBytes_ofLe (s.pbSrc.take t.depth.bytes)
    rw [htake] at hpel hback
    refine ⟨s.pbSrc.drop t.depth.bytes, ?_, hpel, rfl⟩
    rw [hback, take_append_drop]

/-- A step of a color image: a pixel of the source is copied. -/
def copy_pixel (t : Target) (s : Rle) : Except Fault Rle := do
  let (temp, s) ← read_pixel t s
  put_pixel t temp s

theorem put_pixel_pbSrc (t : Target) (v : Nat) (s : Rle) (rest : Bytes) :
    put_pixel t v { s with pbSrc := rest } =
      (put_pixel t v s).map fun s' => { s' with pbSrc := rest } := by
  unfold put_pixel
  split <;> rfl

theorem paint_all_pbSrc (t : Target) (paints : List Paint) (s : Rle) (rest : Bytes) :
    paint_all t paints { s with pbSrc := rest } =
      (paint_all t paints s).map fun s' => { s' with pbSrc := rest } := by
  induction paints generalizing s with
  | nil => rfl
  | cons paint paints ih =>
    rw [paint_all_cons, paint_all_cons, put_pixel_pbSrc]
    cases put_pixel t (paintValue t.width s.fFirstLine s.dest paint) s with
    | error f => rfl
    | ok s' => exact ih s'

theorem copy_loop.spec (pels : List Nat) (s : Rle) (rest : Bytes)
    (h : s.pbSrc = pixelBytes t.depth pels ++ rest)
    (hpels : ∀ pel ∈ pels, pel < 256 ^ t.depth.bytes) :
    rest_loop (copy_pixel t) pels.length s =
      paint_all t (pels.map .plain) { s with pbSrc := rest } := by
  induction pels generalizing s with
  | nil =>
    cases h
    rfl
  | cons pel pels ih =>
    have hsrc : s.pbSrc = leBytes t.depth.bytes pel ++ (pixelBytes t.depth pels ++ rest) := by
      rw [h, pixelBytes, flatMap_cons, append_assoc]
      rfl
    have hread := read_pixel.spec hsrc (hpels pel mem_cons_self)
    have hcopy : copy_pixel t s =
        put_pixel t pel { s with pbSrc := pixelBytes t.depth pels ++ rest } := by
      unfold copy_pixel
      rw [hread]
      rfl
    rw [length_cons, rest_loop, hcopy, map_cons, paint_all_cons, paintValue,
      put_pixel_pbSrc t pel s (pixelBytes t.depth pels ++ rest), put_pixel_pbSrc t pel s rest]
    cases hput : put_pixel t pel s with
    | error f => rfl
    | ok s' =>
      exact ih { s' with pbSrc := pixelBytes t.depth pels ++ rest } rfl
        (forall_mem_cons.mp hpels).2

theorem copy_loop.inv (n : Nat) (h : rest_loop (copy_pixel t) n s = .ok s') :
    ∃ pels, pels.length = n ∧ (∀ pel ∈ pels, pel < 256 ^ t.depth.bytes) ∧
      s.pbSrc = pixelBytes t.depth pels ++ s'.pbSrc := by
  induction n generalizing s with
  | zero =>
    cases h
    exact ⟨[], rfl, forall_mem_nil _, rfl⟩
  | succ n ih =>
    obtain ⟨s1, hcopy, hrest⟩ := bind_eq_ok h
    obtain ⟨⟨pel, s2⟩, hread, hput⟩ := bind_eq_ok hcopy
    obtain ⟨rest, hsrc, hpel, rfl⟩ := read_pixel.inv hread
    obtain ⟨pels, hlen, hpels, hbytes⟩ := ih hrest
    refine ⟨pel :: pels, by rw [length_cons, hlen], ?_, ?_⟩
    · exact forall_mem_cons.mpr ⟨hpel, hpels⟩
    · have hsame := (put_pixel_same hput).pbSrc
      rw [hsrc, pixelBytes, flatMap_cons, append_assoc]
      congr 1
      exact hsame.symm.trans hbytes

theorem image_loop.spec (turns n : Nat) (masks : Bytes) (s : Rle) (rest : Bytes)
    (hturns : n < turns) (hmasks : masks.length = (n + 7) / 8) (h : s.pbSrc = masks ++ rest) :
    image_loop t turns n s = paint_all t
      (((masks.flatMap maskBits).take n).map (bitPaint s.fgPel)) { s with pbSrc := rest } := by
  have hbits : ∀ mask, (maskBits mask).length = 8 := fun _ => rfl
  induction turns generalizing n masks s with
  | zero => omega
  | succ turns ih =>
    unfold image_loop
    cases masks with
    | nil =>
      obtain rfl : n = 0 := by simp only [length_nil] at hmasks; omega
      cases h
      rfl
    | cons mask masks =>
      rw [length_cons] at hmasks
      have hn : 1 ≤ n := by omega
      by_cases hmore : n > 8
      · have hmask := WRITEFGBGIMAGE.spec t mask 8 { s with pbSrc := masks ++ rest }
          (by decide)
        rw [if_pos hmore, h]
        show (WRITEFGBGIMAGE t mask 8 { s with pbSrc := masks ++ rest }).bind
          (image_loop t turns (n - 8)) = _
        rw [hmask, take_of_length_le (Nat.le_of_eq (hbits mask)), flatMap_cons,
          take_append, take_of_length_le (by rw [hbits]; omega), map_append,
          paint_all_append, hbits, paint_all_pbSrc t _ s (masks ++ rest),
          paint_all_pbSrc t _ s rest]
        cases hall : paint_all t ((maskBits mask).map (bitPaint s.fgPel)) s with
        | error f => rfl
        | ok s' =>
          have hrest := ih (n - 8) masks { s' with pbSrc := masks ++ rest } (by omega)
            (by omega) rfl
          rw [← (paint_all_same hall).fgPel]
          exact hrest
      · have hmask := WRITEFGBGIMAGE.spec t mask n { s with pbSrc := masks ++ rest } hn
        obtain rfl : masks = [] := length_eq_zero_iff.mp (by omega)
        rw [if_neg hmore, if_pos (by omega), h]
        exact hmask

theorem WRITEFGBGIMAGE_same {mask : UInt8} {cBits : Nat} (hc : 1 ≤ cBits)
    (h : WRITEFGBGIMAGE t mask cBits s = .ok s') : SameRest s s' :=
  paint_all_same ((WRITEFGBGIMAGE.spec t mask cBits s hc).symm.trans h)

theorem image_loop.inv (turns n : Nat) (hturns : n < turns) (h : image_loop t turns n s = .ok s') :
    ∃ masks, masks.length = (n + 7) / 8 ∧ s.pbSrc = masks ++ s'.pbSrc := by
  induction turns generalizing n s with
  | zero => omega
  | succ turns ih =>
    unfold image_loop at h
    split at h
    · rename_i hmore
      obtain ⟨mask, hmask, h⟩ := bind_eq_ok h
      obtain ⟨s1, hwrite, h⟩ := bind_eq_ok h
      obtain ⟨masks, hlen, hsrc⟩ := ih (n - 8) (by omega) h
      have hsame := (WRITEFGBGIMAGE_same (by decide) hwrite).pbSrc
      refine ⟨mask :: masks, by rw [length_cons]; omega, ?_⟩
      rw [src_byte.inv hmask, cons_append, ← hsrc, hsame]
    · split at h
      · obtain ⟨mask, hmask, h⟩ := bind_eq_ok h
        have hsame := (WRITEFGBGIMAGE_same (by omega) h).pbSrc
        refine ⟨[mask], by rw [length_singleton]; omega, ?_⟩
        rw [src_byte.inv hmask, hsame]
        rfl
      · cases h
        exact ⟨[], by rw [length_nil]; omega, rfl⟩

/-! ## Headers -/

def Kind.mask (kind : Kind) : UInt8 :=
  if kind.lite then g_MaskLiteRunLength else g_MaskRegularRunLength

theorem headerByte_code (kind : Kind) :
    ∀ low < 2 ^ kind.lengthBits, ExtractCodeId (kind.headerByte low) = some kind.short ∧
      (kind.headerByte low &&& kind.mask).toNat = low := by
  cases kind <;> decide

def kinds : List Kind :=
  [.background, .foreground, .setForeground, .dithered, .color, .fgbg, .setFgbg, .colorImage]

theorem mem_kinds (kind : Kind) : kind ∈ kinds := by
  cases kind <;> decide

theorem header_bytes :
    ∀ b : UInt8, ∀ code ∈ ExtractCodeId b, (code ∈ whole_codes → b = UInt8.ofNat code.value) ∧
      ∀ kind ∈ kinds, code = kind.short →
        b = kind.headerByte (b &&& kind.mask).toNat ∧
          (b &&& kind.mask).toNat < 2 ^ kind.lengthBits := by
  decide +kernel

theorem code_headerByte (h : ExtractCodeId b = some kind.short) :
    b = kind.headerByte (b &&& kind.mask).toNat ∧ (b &&& kind.mask).toNat < 2 ^ kind.lengthBits :=
  (header_bytes b _ h).2 kind (mem_kinds kind) rfl

theorem code_whole {code : Code} (h : ExtractCodeId b = some code) (hcode : code ∈ whole_codes) :
    b = UInt8.ofNat code.value :=
  (header_bytes b _ h).1 hcode

theorem megaMega_whole (kind : Kind) : kind.megaMega ∈ whole_codes := by
  cases kind <;> decide

theorem megaMega_code (kind : Kind) :
    ExtractCodeId (UInt8.ofNat kind.megaMega.value) = some kind.megaMega := by
  cases kind <;> decide

theorem ExtractRunLength_short (kind : Kind) (src : Bytes) :
    ExtractRunLength kind.short src =
      if kind.image then image_length kind.mask src else run_length kind.mask kind.extra src := by
  cases kind <;> rfl

theorem ExtractRunLength_megaMega (kind : Kind) (src : Bytes) :
    ExtractRunLength kind.megaMega src = mega_mega_length src := by
  cases kind <;> rfl

theorem order_length_eq {code : Code} (h : ExtractRunLength code s.pbSrc = .ok (n, k))
    (hrest : s.pbSrc.drop k = rest) :
    order_length code s = .ok (n, { s with pbSrc := rest }) := by
  unfold order_length
  rw [h, ← hrest]
  rfl

theorem toNat_ofNat_byte (h : n < 256) : (UInt8.ofNat n).toNat = n := by
  rw [UInt8.toNat_ofNat']
  omega

theorem header_short_length {low : Nat} (rest : Bytes) (hlow : 1 ≤ low)
    (hbits : low < 2 ^ kind.lengthBits) :
    ExtractRunLength kind.short (kind.headerByte low :: rest) =
      .ok (if kind.image then low * 8 else low, 1) := by
  have hback := (headerByte_code kind low hbits).2
  rw [ExtractRunLength_short]
  split
  · unfold image_length
    simp only [src_byte_zero, bind, Except.bind, hback]
    rw [if_neg (by omega)]
    rfl
  · unfold run_length
    simp only [src_byte_zero, bind, Except.bind, hback]
    rw [if_neg (by omega)]
    rfl

theorem header_mega_length (kind : Kind) (next : UInt8) (rest : Bytes) :
    ExtractRunLength kind.short (kind.headerByte 0 :: next :: rest) =
      .ok (next.toNat + kind.extra, 2) := by
  have hback := (headerByte_code kind 0 (Nat.two_pow_pos _)).2
  rw [ExtractRunLength_short]
  split
  · rename_i himage
    unfold image_length
    simp only [src_byte_zero, bind, Except.bind, hback, Kind.extra, himage, if_true]
    rfl
  · unfold run_length
    simp only [src_byte_zero, bind, Except.bind, hback, if_true]
    rfl

theorem order_length.spec {form : Form} (hn : Fits kind n form)
    (h : s.pbSrc = header kind n form ++ rest) :
    order_length (kind.code form) s = .ok (n, { s with pbSrc := rest }) := by
  cases form with
  | short =>
    have hlow : 1 ≤ (if kind.image then n / 8 else n) ∧
        (if kind.image then n / 8 else n) < 2 ^ kind.lengthBits ∧
        (if kind.image then (if kind.image then n / 8 else n) * 8
          else (if kind.image then n / 8 else n)) = n := by
      unfold Fits at hn
      dsimp only at hn
      split at hn
      · rename_i himage
        simp only [himage, if_true]
        omega
      · rename_i himage
        simp only [himage, Bool.false_eq_true, if_false]
        exact ⟨hn.1, hn.2, trivial⟩
    refine order_length_eq (k := 1) ?_ (by rw [h]; rfl)
    have hlen := header_short_length rest hlow.1 hlow.2.1
    rw [hlow.2.2] at hlen
    rw [h]
    exact hlen
  | mega =>
    refine order_length_eq (k := 2) ?_ (by rw [h]; rfl)
    have hlen := header_mega_length kind (UInt8.ofNat (n - kind.extra)) rest
    rw [toNat_ofNat_byte (by have := hn.2; omega), Nat.sub_add_cancel hn.1] at hlen
    rw [h]
    exact hlen
  | megaMega =>
    refine order_length_eq (k := 3) ?_ (by rw [h]; rfl)
    rw [h]
    refine (ExtractRunLength_megaMega kind _).trans ?_
    show Except.ok (ofLe16 _ _, 3) = _
    rw [ofLe16_le16, Nat.mod_eq_of_lt hn]

theorem short_length.inv (hcode : ExtractCodeId b = some kind.short)
    (h : ExtractRunLength kind.short (b :: src) = .ok (n, k)) :
    ∃ form, form ≠ Form.megaMega ∧ Fits kind n form ∧
      b :: src = header kind n form ++ (b :: src).drop k := by
  obtain ⟨hbyte, hlow⟩ := code_headerByte hcode
  generalize (b &&& kind.mask).toNat = low at hbyte hlow
  subst hbyte
  by_cases hzero : low = 0
  · subst hzero
    cases src with
    | nil =>
      have hback := (headerByte_code kind 0 (Nat.two_pow_pos _)).2
      rw [ExtractRunLength_short] at h
      split at h
      · unfold image_length at h
        simp only [src_byte_zero, bind, Except.bind, hback, if_true] at h
        cases h
      · unfold run_length at h
        simp only [src_byte_zero, bind, Except.bind, hback, if_true] at h
        cases h
    | cons next src =>
      rw [header_mega_length] at h
      cases h
      have hlt := next.toNat_lt
      refine ⟨.mega, nofun, ⟨by omega, by omega⟩, ?_⟩
      simp only [header, Nat.add_sub_cancel, UInt8.ofNat_toNat]
      rfl
  · rw [header_short_length _ (by omega) hlow] at h
    cases h
    refine ⟨.short, nofun, ?_, ?_⟩
    · cases himage : kind.image with
      | false =>
        simp only [Fits, himage, Bool.false_eq_true, if_false]
        exact ⟨by omega, hlow⟩
      | true =>
        simp only [Fits, himage, if_true, Nat.mul_div_cancel _ (show 0 < 8 by decide)]
        exact ⟨Nat.mul_mod_left low 8, by omega, hlow⟩
    · cases himage : kind.image with
      | false =>
        simp only [header, himage, Bool.false_eq_true, if_false]
        rfl
      | true =>
        simp only [header, himage, if_true, Nat.mul_div_cancel _ (show 0 < 8 by decide)]
        rfl

theorem megaMega_length.inv (hcode : ExtractCodeId b = some kind.megaMega)
    (h : ExtractRunLength kind.megaMega (b :: src) = .ok (n, k)) :
    Fits kind n .megaMega ∧ b :: src = header kind n .megaMega ++ (b :: src).drop k := by
  rw [ExtractRunLength_megaMega] at h
  match src with
  | [] | [_] => cases h
  | low :: high :: src =>
    cases h
    refine ⟨ofLe16_lt low high, ?_⟩
    rw [header, le16_ofLe16, code_whole hcode (megaMega_whole kind)]
    rfl

theorem order_length.inv {form : Form} (hsrc : s.pbSrc = b :: src)
    (hcode : ExtractCodeId b = some (kind.code form))
    (h : order_length (kind.code form) s = .ok (n, s')) :
    ∃ form' rest, kind.code form' = kind.code form ∧ Fits kind n form' ∧
      s.pbSrc = header kind n form' ++ rest ∧ s' = { s with pbSrc := rest } := by
  obtain ⟨⟨n', k⟩, hlen, h⟩ := bind_eq_ok h
  cases h
  rw [hsrc] at hlen ⊢
  cases form with
  | short | mega =>
    obtain ⟨form', hform, hfits, hbytes⟩ := short_length.inv hcode hlen
    refine ⟨form', _, ?_, hfits, hbytes, rfl⟩
    cases form' with
    | short | mega => rfl
    | megaMega => exact absurd rfl hform
  | megaMega =>
    obtain ⟨hfits, hbytes⟩ := megaMega_length.inv hcode hlen
    exact ⟨.megaMega, _, rfl, hfits, hbytes, rfl⟩

end neutrinordp.bitmap

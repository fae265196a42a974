-- The run-length decoder and the interpreter agree: an order is drawn as the interpreter draws
-- it, and so is a list of orders. A source that the decoder gets through is a list of orders.
import CorporateClient.BitmapOrders

open List bytes

namespace neutrinordp.bitmap

/-! ## One order -/

/-- What an order does once its length is read. -/
def Kind.body (t : Target) (kind : Kind) (n : Nat) (s : Rle) : Except Fault Rle :=
  match kind with
  | .background => do
    let (n, s) ← insert_fg t n s
    let s ← unroll (bg_pixel t) n s
    pure { s with fInsertFgPel := true }
  | .foreground => unroll (fg_pixel t) n s
  | .setForeground => do
    let s ← set_fg t true s
    unroll (fg_pixel t) n s
  | .dithered => do
    let (pixelA, s) ← read_pixel t s
    let (pixelB, s) ← read_pixel t s
    unroll (fun s => do put_pixel t pixelB (← put_pixel t pixelA s)) n s
  | .color => do
    let (pixelA, s) ← read_pixel t s
    unroll (put_pixel t pixelA) n s
  | .fgbg => image_loop t (n + 1) n s
  | .setFgbg => do
    let s ← set_fg t true s
    image_loop t (n + 1) n s
  | .colorImage => unroll (copy_pixel t) n s

/-- Only a background run keeps the flag up to its pixels. -/
def Kind.keep (kind : Kind) (insert : Bool) : Bool := if kind = .background then insert else false

theorem rle_order_run (t : Target) (kind : Kind) (form : Form) (s : Rle) :
    rle_order t (kind.code form) s =
      (order_length (kind.code form) { s with fInsertFgPel := kind.keep s.fInsertFgPel }).bind
        fun r => kind.body t r.1 r.2 := by
  cases kind <;> cases form <;> rfl

theorem unroll_bg (t : Target) (n : Nat) (s : Rle) :
    unroll (bg_pixel t) n s = paint_all t (replicate n (.over 0)) s :=
  unroll_paint_one (fun s _ => bg_pixel_eq t s) n s rfl

theorem unroll_fg (t : Target) (n : Nat) (s : Rle) :
    unroll (fg_pixel t) n s = paint_all t (replicate n (.over s.fgPel)) s :=
  unroll_paint_one (fun s' hs => by rw [fg_pixel_eq, hs]) n s rfl

theorem unroll_put (t : Target) (v n : Nat) (s : Rle) :
    unroll (put_pixel t v) n s = paint_all t (replicate n (.plain v)) s :=
  unroll_paint_one (fun s _ => (paint_one t (.plain v) s).symm) n s rfl

theorem unroll_put_two (t : Target) (a b n : Nat) (s : Rle) :
    unroll (fun s => do put_pixel t b (← put_pixel t a s)) n s =
      paint_all t (replicate n [.plain a, .plain b]).flatten s := by
  refine unroll_paint (fun s _ => ?_) n s rfl
  congr 1
  funext s'
  exact (paint_one t (.plain b) s').symm

theorem pixelBytes_one (d : Depth) (pel : Nat) (rest : Bytes) :
    pixelBytes d [pel] ++ rest = leBytes d.bytes pel ++ rest := by
  rw [pixelBytes, flatMap_singleton]

variable {t : Target} {s : Rle} {o : Order} {rest : Bytes} {n : Nat} {d : Depth} {p : Picture}

theorem set_fg.spec {pel : Nat} (h : s.pbSrc = pixelBytes t.depth [pel] ++ rest)
    (hpel : pel < 256 ^ t.depth.bytes) :
    set_fg t true s = .ok { s with pbSrc := rest, fgPel := pel } := by
  rw [pixelBytes_one] at h
  unfold set_fg
  rw [if_pos rfl, read_pixel.spec h hpel]
  rfl

theorem insert_fg_off (h : s.fInsertFgPel = false) : insert_fg t n s = .ok (n, s) := by
  unfold insert_fg
  rw [h]
  rfl

theorem insert_fg_on (h : s.fInsertFgPel = true) (hn : 1 ≤ n) (hlt : n < 4294967296) :
    insert_fg t n s = (fg_pixel t s).map fun s' => (n - 1, s') := by
  unfold insert_fg
  rw [h, if_pos rfl, show (n + 4294967295) % 4294967296 = n - 1 by omega]
  cases fg_pixel t s <;> rfl

theorem Fits.lt {kind : Kind} {form : Form} (h : Fits kind n form) : n < 65536 := by
  cases form with
  | short =>
    cases kind <;> simp [Fits, Kind.image, Kind.lengthBits, Kind.lite] at h <;> omega
  | mega =>
    cases kind <;> simp [Fits, Kind.image, Kind.extra, Kind.lite] at h <;> omega
  | megaMega => exact h

theorem background_body (hn : n < 4294967296) (hzero : s.fInsertFgPel = true → 1 ≤ n) :
    Kind.background.body t n s =
      (paint_all t (if s.fInsertFgPel then .over s.fgPel :: replicate (n - 1) (.over 0)
        else replicate n (.over 0)) s).map fun s' => { s' with fInsertFgPel := true } := by
  unfold Kind.body
  cases hs : s.fInsertFgPel with
  | false =>
    rw [insert_fg_off hs, if_neg Bool.false_ne_true, ← unroll_bg]
    show (unroll (bg_pixel t) n s).bind _ = _
    cases unroll (bg_pixel t) n s <;> rfl
  | true =>
    rw [insert_fg_on hs (hzero hs) hn, if_pos rfl, paint_all_cons, ← paint_one, ← fg_pixel_eq]
    cases fg_pixel t s with
    | error f => rfl
    | ok s1 =>
      show (unroll (bg_pixel t) (n - 1) s1).bind _ = (paint_all t _ s1).map _
      rw [unroll_bg]
      cases paint_all t (replicate (n - 1) (.over 0)) s1 <;> rfl

theorem map_self {α : Type} (x : Except Fault α) : (x.map fun a => a) = x := by
  cases x <;> rfl

theorem body_spec {o : RunOrder} (hv : o.Valid t.depth)
    (hs : s.pbSrc = pixelBytes t.depth o.pels ++ (o.masks ++ rest))
    (hzero : o.kind = .background → s.fInsertFgPel = true → 1 ≤ o.length) :
    o.kind.body t o.length s =
      (paint_all t (o.paints ((Order.run o).foreground s.fgPel) s.fInsertFgPel)
        { s with pbSrc := rest, fgPel := (Order.run o).foreground s.fgPel }).map
        fun s' => if o.kind = .background then { s' with fInsertFgPel := true } else s' := by
  obtain ⟨kind, form, n, pels, masks⟩ := o
  obtain ⟨src, dest, fgPel, fInsertFgPel, fFirstLine⟩ := s
  obtain ⟨hfits, hpels, hrange, hmasks⟩ := hv
  subst hs
  have hn := hfits.lt
  cases kind with
  | background =>
    obtain rfl := length_eq_zero_iff.mp hpels
    obtain rfl := length_eq_zero_iff.mp hmasks
    exact background_body (by omega) (hzero rfl)
  | foreground =>
    obtain rfl := length_eq_zero_iff.mp hpels
    obtain rfl := length_eq_zero_iff.mp hmasks
    exact (unroll_fg t n _).trans (map_self _).symm
  | setForeground =>
    obtain ⟨pel, rfl⟩ := length_eq_one_iff.mp hpels
    obtain rfl := length_eq_zero_iff.mp hmasks
    unfold Kind.body
    rw [set_fg.spec rfl (hrange pel mem_cons_self)]
    exact (unroll_fg t n _).trans (map_self _).symm
  | dithered =>
    obtain ⟨a, b, rfl⟩ := length_eq_two.mp hpels
    obtain rfl := length_eq_zero_iff.mp hmasks
    have ha := hrange a mem_cons_self
    have hb := hrange b (mem_cons_of_mem a mem_cons_self)
    have hsrc : pixelBytes t.depth [a, b] ++ ([] ++ rest) =
        leBytes t.depth.bytes a ++ (leBytes t.depth.bytes b ++ rest) := by
      simp [pixelBytes]
    unfold Kind.body
    rw [read_pixel.spec hsrc ha]
    show ((read_pixel t _).bind _) = _
    rw [read_pixel.spec rfl hb]
    exact (unroll_put_two t a b n _).trans (map_self _).symm
  | color =>
    obtain ⟨pel, rfl⟩ := length_eq_one_iff.mp hpels
    obtain rfl := length_eq_zero_iff.mp hmasks
    unfold Kind.body
    dsimp only
    rw [read_pixel.spec (pixelBytes_one t.depth pel _) (hrange pel mem_cons_self)]
    exact (unroll_put t pel n _).trans (map_self _).symm
  | fgbg =>
    obtain rfl := length_eq_zero_iff.mp hpels
    exact (image_loop.spec (n + 1) n masks _ rest (Nat.lt_succ_self n) hmasks rfl).trans
      (map_self _).symm
  | setFgbg =>
    obtain ⟨pel, rfl⟩ := length_eq_one_iff.mp hpels
    unfold Kind.body
    dsimp only
    rw [set_fg.spec rfl (hrange pel mem_cons_self)]
    exact (image_loop.spec (n + 1) n masks _ rest (Nat.lt_succ_self n) hmasks rfl).trans
      (map_self _).symm
  | colorImage =>
    obtain rfl := length_eq_zero_iff.mp hmasks
    unfold Kind.body
    dsimp only
    rw [unroll_eq, ← show pels.length = n from hpels]
    exact (copy_loop.spec pels _ rest rfl hrange).trans (map_self _).symm

theorem length_masks (masks : Bytes) : (masks.flatMap maskBits).length = 8 * masks.length := by
  induction masks with
  | nil => rfl
  | cons mask masks ih =>
    rw [flatMap_cons, length_append, ih, length_cons, show (maskBits mask).length = 8
      from rfl]
    omega

theorem length_paints {insert : Bool} (fg : Nat) (hv : o.Valid d)
    (hzero : o.isBackground = true → insert = true → 1 ≤ o.pixelCount) :
    (o.paints fg insert).length = o.pixelCount := by
  cases o with
  | fgbg1 | fgbg2 | white | black => rfl
  | run o =>
    obtain ⟨kind, form, n, pels, masks⟩ := o
    obtain ⟨hfits, hpels, hrange, hmasks⟩ := hv
    unfold Order.paints RunOrder.paints
    cases kind with
    | background =>
      have hpos := hzero rfl
      cases insert with
      | false => exact length_replicate
      | true =>
        have hone : 1 ≤ n := hpos rfl
        simp only [if_true, length_cons, length_replicate]
        exact Nat.sub_add_cancel hone
    | foreground | setForeground | color => exact length_replicate
    | dithered =>
      simp [Order.pixelCount, Nat.mul_comm]
    | fgbg | setFgbg =>
      dsimp only [Kind.maskCount] at hmasks
      simp only [length_map, length_take, length_masks, hmasks, Kind.image, if_true]
      exact Nat.min_eq_left (by omega)
    | colorImage =>
      simp only [length_map]
      exact hpels

theorem header_cons {kind : Kind} {form : Form} (h : Fits kind n form) :
    ∃ b tail, header kind n form = b :: tail ∧ ExtractCodeId b = some (kind.code form) := by
  cases form with
  | short =>
    refine ⟨_, _, rfl, (headerByte_code kind _ ?_).1⟩
    unfold Fits at h
    dsimp only at h
    split at h
    · rename_i himage
      rw [if_pos himage]
      exact h.2.2
    · rename_i himage
      rw [if_neg himage]
      exact h.2
  | mega => exact ⟨_, _, rfl, (headerByte_code kind 0 (Nat.two_pow_pos _)).1⟩
  | megaMega => exact ⟨_, _, rfl, megaMega_code kind⟩

theorem watch_pbSrc (t : Target) (s : Rle) : (watch_first_line t s).pbSrc = s.pbSrc := by
  unfold watch_first_line
  split <;> rfl

theorem watch_dest (t : Target) (s : Rle) : (watch_first_line t s).dest = s.dest := by
  unfold watch_first_line
  split <;> rfl

theorem watch_fgPel (t : Target) (s : Rle) : (watch_first_line t s).fgPel = s.fgPel := by
  unfold watch_first_line
  split <;> rfl

theorem rle_turn_code {b : UInt8} {tail : Bytes} {code : Code} (hs : s.pbSrc = b :: tail)
    (hcode : ExtractCodeId b = some code) :
    rle_turn t s = rle_order t code (watch_first_line t s) := by
  unfold rle_turn
  dsimp only
  rw [watch_pbSrc, hs, src_byte_zero]
  simp only [bind, Except.bind, hcode]

/-- The state behind an order that had room. -/
def after (t : Target) (o : Order) (s : Rle) (rest : List UInt8) : Rle where
  pbSrc := rest
  dest := draw t.depth t.width (watch_first_line t s).fFirstLine s.dest
    (o.paints (o.foreground s.fgPel) (watch_first_line t s).fInsertFgPel)
  fgPel := o.foreground s.fgPel
  fInsertFgPel := o.isBackground
  fFirstLine := (watch_first_line t s).fFirstLine

def Order.isRun : Order → Bool
  | .run _ => true
  | _ => false

theorem special_order (t : Target) (h : o.isRun = false) :
    ∃ b code, o.encode t.depth = [b] ∧ ExtractCodeId b = some code ∧
      ∀ s, rle_order t code s =
        paint_all t (o.paints (o.foreground s.fgPel) s.fInsertFgPel)
          { s with pbSrc := s.pbSrc.drop 1, fInsertFgPel := false } := by
  cases o with
  | run o => cases h
  | fgbg1 =>
    exact ⟨0xF9, .SPECIAL_FGBG_1, rfl, by decide,
      fun s => WRITEFGBGIMAGE.spec t 0x03 8 _ (by decide)⟩
  | fgbg2 =>
    exact ⟨0xFA, .SPECIAL_FGBG_2, rfl, by decide,
      fun s => WRITEFGBGIMAGE.spec t 0x05 8 _ (by decide)⟩
  | white =>
    exact ⟨0xFD, .SPECIAL_WHITE, rfl, by decide, fun s => (paint_one t (.plain _) _).symm⟩
  | black =>
    exact ⟨0xFE, .SPECIAL_BLACK, rfl, by decide, fun s => (paint_one t (.plain _) _).symm⟩

theorem special_facts (h : o.isRun = false) (fg : Nat) (insert : Bool) :
    (o.paints fg insert).length = o.pixelCount ∧ o.foreground fg = fg ∧ o.isBackground = false := by
  cases o with
  | run o => cases h
  | fgbg1 | fgbg2 | white | black => exact ⟨rfl, rfl, rfl⟩

theorem special_turn (ho : o.isRun = false) (hs : s.pbSrc = o.encode t.depth ++ rest)
    (hroom : s.dest.length ≤ t.pixels) :
    rle_turn t s = if s.dest.length + o.pixelCount ≤ t.pixels then .ok (after t o s rest)
      else .error .dstOverrun := by
  obtain ⟨b, code, hbytes, hcode, horder⟩ := special_order t ho
  obtain ⟨hlen, hfg, hback⟩ := special_facts ho s.fgPel (watch_first_line t s).fInsertFgPel
  rw [hbytes] at hs
  rw [rle_turn_code hs hcode, horder, watch_fgPel, watch_dest, watch_pbSrc, hfg, paint_all.spec,
    hlen, hs]
  · unfold after
    rw [hfg, hback]
    rfl
  · exact hroom

theorem keep_paints (o : RunOrder) (fg : Nat) (insert : Bool) :
    o.paints fg (o.kind.keep insert) = o.paints fg insert := by
  obtain ⟨kind, form, n, pels, masks⟩ := o
  cases kind <;> rfl

theorem keep_flag (o : RunOrder) (insert : Bool) :
    (if o.kind = .background then true else o.kind.keep insert) = (Order.run o).isBackground := by
  unfold Kind.keep
  by_cases hback : o.kind = .background
  · rw [if_pos hback]
    exact (decide_eq_true hback).symm
  · rw [if_neg hback, if_neg hback]
    exact (decide_eq_false hback).symm

theorem run_turn {o : RunOrder} (hv : o.Valid t.depth) (hs : s.pbSrc = o.encode t.depth ++ rest)
    (hroom : s.dest.length ≤ t.pixels)
    (hzero : (Order.run o).isBackground = true → (watch_first_line t s).fInsertFgPel = true →
      1 ≤ (Order.run o).pixelCount) :
    rle_turn t s = if s.dest.length + (Order.run o).pixelCount ≤ t.pixels then
      .ok (after t (.run o) s rest) else .error .dstOverrun := by
  have hlen := length_paints ((Order.run o).foreground s.fgPel) (o := .run o) hv hzero
  obtain ⟨b, tail, hheader, hcode⟩ := header_cons hv.fits
  have hhead : s.pbSrc = b :: (tail ++ (pixelBytes t.depth o.pels ++ (o.masks ++ rest))) := by
    rw [hs, RunOrder.encode, hheader]
    simp
  rw [rle_turn_code hhead hcode, rle_order_run]
  unfold after
  have hsrc := (watch_pbSrc t s).trans hhead
  rw [← watch_fgPel t s, ← watch_dest t s] at *
  generalize watch_first_line t s = w at *
  obtain ⟨src, dest, fgPel, insert, first⟩ := w
  have hform : src = header o.kind o.length o.form ++
      (pixelBytes t.depth o.pels ++ (o.masks ++ rest)) := by
    rw [hheader, cons_append, ← hsrc]
  have hlength := order_length.spec (s := ⟨src, dest, fgPel, o.kind.keep insert, first⟩)
    hv.fits hform
  have hpos : o.kind = .background → o.kind.keep insert = true → 1 ≤ o.length := by
    intro hback hinsert
    rw [Kind.keep, if_pos hback] at hinsert
    have hcount := hzero (decide_eq_true hback) hinsert
    rw [Order.pixelCount, hback] at hcount
    exact hcount
  have hbody := body_spec (s := ⟨pixelBytes t.depth o.pels ++ (o.masks ++ rest), dest, fgPel,
    o.kind.keep insert, first⟩) hv rfl hpos
  have hpaint := paint_all.spec t (o.paints ((Order.run o).foreground fgPel) insert)
    ⟨rest, dest, (Order.run o).foreground fgPel, o.kind.keep insert, first⟩ hroom
  rw [hlength]
  refine hbody.trans ?_
  rw [keep_paints, hpaint, ← keep_flag, ← hlen]
  by_cases hfit : dest.length + (o.paints ((Order.run o).foreground fgPel) insert).length ≤ t.pixels
  · rw [if_pos hfit]
    refine Eq.trans ?_ (if_pos hfit).symm
    by_cases hback : o.kind = .background
    · simp only [if_pos hback]
      rfl
    · simp only [if_neg hback]
      rfl
  · rw [if_neg hfit]
    exact (if_neg hfit).symm

theorem rle_turn.spec (hv : o.Valid t.depth) (hs : s.pbSrc = o.encode t.depth ++ rest)
    (hroom : s.dest.length ≤ t.pixels)
    (hzero : o.isBackground = true → (watch_first_line t s).fInsertFgPel = true →
      1 ≤ o.pixelCount) :
    rle_turn t s = if s.dest.length + o.pixelCount ≤ t.pixels then .ok (after t o s rest)
      else .error .dstOverrun := by
  cases o with
  | run o => exact run_turn hv hs hroom hzero
  | fgbg1 | fgbg2 | white | black => exact special_turn rfl hs hroom

/-! ## Lists of orders -/

/-- The decoder is where the interpreter is. The first line may be left by one order only, as
its end is seen at the start of an order. -/
structure Shows (t : Target) (p : Picture) (s : Rle) : Prop where
  pixels : s.dest = p.pixels
  fg : s.fgPel = p.fg
  background : p.lastBackground = if s.fInsertFgPel then some s.fFirstLine else none
  later : s.fFirstLine = false → t.width ≤ s.dest.length
  near : s.fFirstLine = true → s.dest.length < t.width + 131070

theorem Order.Valid.count (h : o.Valid d) : o.pixelCount ≤ 131070 := by
  cases o with
  | run o =>
    have hn := h.fits.lt
    unfold Order.pixelCount
    dsimp only
    split <;> omega
  | fgbg1 | fgbg2 | white | black => decide

theorem Depth.bytes_pos (d : Depth) : 1 ≤ d.bytes := by
  cases d <;> decide

theorem Depth.bytes_le (d : Depth) : d.bytes ≤ 3 := by
  cases d <;> decide

theorem first_line_end (hrow : t.rowDelta < 2147483648) (h : Shows t p s)
    (hfirst : s.fFirstLine = true) :
    t.depth.bytes * s.dest.length % 4294967296 ≥ t.rowDelta ↔ t.width ≤ s.dest.length := by
  have hbytes := t.depth.bytes_pos
  have hle := t.depth.bytes_le
  have hnear := Nat.mul_le_mul_left t.depth.bytes (Nat.le_of_lt (h.near hfirst))
  unfold Target.rowDelta at hrow ⊢
  rw [Nat.mul_add] at hnear
  rw [Nat.mod_eq_of_lt (by omega)]
  exact ⟨fun hge => Nat.le_of_mul_le_mul_left hge hbytes, fun hge => Nat.mul_le_mul_left _ hge⟩

theorem watch_shows (hrow : t.rowDelta < 2147483648) (h : Shows t p s) :
    (watch_first_line t s).fFirstLine = decide (p.pixels.length < t.width) ∧
      (watch_first_line t s).fInsertFgPel =
        decide (p.lastBackground = some (decide (p.pixels.length < t.width))) := by
  have hback := h.background
  rw [← h.pixels]
  unfold watch_first_line
  cases hfirst : s.fFirstLine with
  | false =>
    have hlater := h.later hfirst
    rw [hfirst] at hback
    rw [if_neg (fun hend => Bool.false_ne_true hend.1), hfirst, decide_eq_false (by omega), hback]
    refine ⟨rfl, ?_⟩
    cases s.fInsertFgPel <;> rfl
  | true =>
    have hend := first_line_end hrow h hfirst
    rw [hfirst] at hback
    by_cases hwidth : t.width ≤ s.dest.length
    · rw [if_pos ⟨rfl, hend.mpr hwidth⟩, decide_eq_false (by omega), hback]
      refine ⟨rfl, ?_⟩
      cases s.fInsertFgPel <;> rfl
    · rw [if_neg (fun hover => hwidth (hend.mp hover.2)), hfirst, decide_eq_true (by omega), hback]
      refine ⟨rfl, ?_⟩
      cases s.fInsertFgPel <;> rfl

/-- A background run without pixels must not come where a foreground pixel is due. -/
def Admits (width : Nat) (p : Picture) (o : Order) : Prop :=
  o.isBackground = true → p.lastBackground = some (decide (p.pixels.length < width)) →
    1 ≤ o.pixelCount

theorem length_add {width : Nat} (hv : o.Valid d) (hadmits : Admits width p o) :
    (p.add d width o).pixels.length = p.pixels.length + o.pixelCount := by
  unfold Picture.add
  rw [length_draw, length_paints _ hv fun hback hinsert => hadmits hback
    (of_decide_eq_true hinsert)]

theorem shows_after (hrow : t.rowDelta < 2147483648) (h : Shows t p s) (hv : o.Valid t.depth)
    (hadmits : Admits t.width p o) (rest : Bytes) :
    Shows t (p.add t.depth t.width o) (after t o s rest) := by
  obtain ⟨hfirst, hinsert⟩ := watch_shows hrow h
  have hpixels : (after t o s rest).dest = (p.add t.depth t.width o).pixels := by
    unfold after Picture.add
    rw [hfirst, hinsert, h.pixels, h.fg]
  have hlen := length_add hv hadmits
  have hcount := hv.count
  refine ⟨hpixels, ?_, ?_, ?_, ?_⟩
  · unfold after Picture.add
    rw [h.fg]
  · unfold after Picture.add
    rw [hfirst]
  · intro hlater
    rw [hpixels, hlen]
    have hwidth : ¬ p.pixels.length < t.width := of_decide_eq_false (hfirst.symm.trans hlater)
    omega
  · intro hnear
    rw [hpixels, hlen]
    have hwidth : p.pixels.length < t.width := of_decide_eq_true (hfirst.symm.trans hnear)
    omega

/-- The orders of a list are valid, and each may follow the ones before it. -/
def Admitted (d : Depth) (width : Nat) : Picture → List Order → Prop
  | _, [] => True
  | p, o :: orders =>
    o.Valid d ∧ Admits width p o ∧ Admitted d width (p.add d width o) orders

theorem encode_pos (hv : o.Valid d) : 1 ≤ (o.encode d).length := by
  cases o with
  | run o =>
    obtain ⟨b, tail, hheader, -⟩ := header_cons hv.fits
    rw [Order.encode, RunOrder.encode, hheader, cons_append, length_cons]
    omega
  | fgbg1 | fgbg2 | white | black => exact Nat.le_refl 1

def encodeAll (d : Depth) (orders : List Order) : List UInt8 := orders.flatMap (Order.encode d)

def totalPixels (orders : List Order) : Nat := (orders.map Order.pixelCount).sum

theorem rle_loop_orders (hrow : t.rowDelta < 2147483648) (orders : List Order) (p : Picture)
    (s : Rle) (turns : Nat) (hs : Shows t p s) (hsrc : s.pbSrc = encodeAll t.depth orders)
    (hall : Admitted t.depth t.width p orders)
    (hfit : p.pixels.length + totalPixels orders ≤ t.pixels)
    (hturns : (encodeAll t.depth orders).length < turns) :
    ∃ s', rle_loop t turns s = .ok s' ∧ s'.pbSrc = [] ∧
      Shows t (orders.foldl (Picture.add t.depth t.width) p) s' := by
  induction orders generalizing p s turns with
  | nil =>
    obtain ⟨turns, rfl⟩ : ∃ k, turns = k + 1 := ⟨turns - 1, by omega⟩
    rw [rle_loop, hsrc]
    exact ⟨s, rfl, hsrc, hs⟩
  | cons o orders ih =>
    obtain ⟨turns, rfl⟩ : ∃ k, turns = k + 1 := ⟨turns - 1, by omega⟩
    obtain ⟨hv, hadmits, hall⟩ := hall
    have hpos := encode_pos hv
    rw [encodeAll, flatMap_cons] at hsrc hturns
    rw [totalPixels, map_cons, sum_cons] at hfit
    rw [length_append] at hturns
    obtain ⟨-, hinsert⟩ := watch_shows hrow hs
    have hturn := rle_turn.spec hv hsrc (by rw [hs.pixels]; omega) (fun hback hflag =>
      hadmits hback (of_decide_eq_true (hinsert.symm.trans hflag)))
    rw [if_pos (by rw [hs.pixels]; omega)] at hturn
    rw [rle_loop, if_pos (by rw [hsrc, length_append]; omega), hturn]
    refine ih _ _ turns (shows_after hrow hs hv hadmits _) rfl hall ?_ ?_
    · rw [length_add hv hadmits, totalPixels]
      omega
    · rw [encodeAll]
      omega

theorem rle_start_shows (t : Target) (src : Bytes) : Shows t emptyPicture (rle_start src) :=
  ⟨rfl, rfl, rfl, nofun, fun _ => Nat.lt_of_lt_of_le (show 0 < 131070 by decide)
    (Nat.le_add_left _ _)⟩

theorem admitted_of_nonempty {width : Nat} (orders : List Order) (p : Picture)
    (h : ∀ o ∈ orders, o.Valid d ∧ 1 ≤ o.pixelCount) : Admitted d width p orders := by
  induction orders generalizing p with
  | nil => trivial
  | cons o orders ih =>
    obtain ⟨hv, hcount⟩ := h o mem_cons_self
    exact ⟨hv, fun _ _ => hcount, ih _ (forall_mem_cons.mp h).2⟩

/-- The decoder reads every list of orders to its end and draws the picture of the
interpreter. A row is computed in `int` by the callers. -/
theorem rle_decoding_is_the_interpreter (t : Target) (orders : List Order)
    (hrow : t.rowDelta < 2147483648)
    (horders : ∀ o ∈ orders, o.Valid t.depth ∧ 1 ≤ o.pixelCount)
    (hfit : totalPixels orders ≤ t.width * t.height) :
    ∃ s, RLEDECOMPRESS t (encodeAll t.depth orders) = .ok s ∧ s.pbSrc = [] ∧
      s.dest = (interpret t.depth t.width orders).pixels := by
  obtain ⟨s, hloop, hsrc, hshows⟩ := rle_loop_orders hrow orders emptyPicture _
    ((encodeAll t.depth orders).length + 1) (rle_start_shows t _) rfl
      (admitted_of_nonempty orders _ horders)
    (by show 0 + _ ≤ _; rw [Nat.zero_add]; exact Nat.le_add_right_of_le hfit) (Nat.lt_succ_self _)
  exact ⟨s, hloop, hsrc, hshows.pixels⟩

/-- Two background runs, so the second one starts with a foreground pixel, then a run over the
first line, and two pixels of their own. -/
def sixPixels : List Order :=
  [.run ⟨.background, .short, 1, [], []⟩, .run ⟨.background, .short, 1, [], []⟩,
    .run ⟨.setForeground, .megaMega, 2, [7], []⟩, .run ⟨.colorImage, .short, 1, [9], []⟩, .black]

theorem six_pixels_are_drawn :
    ∃ s, RLEDECOMPRESS ⟨.depth8, 2, 3, 0⟩ (encodeAll .depth8 sixPixels) = .ok s ∧ s.pbSrc = [] ∧
      s.dest = (interpret .depth8 2 sixPixels).pixels :=
  rle_decoding_is_the_interpreter ⟨.depth8, 2, 3, 0⟩ sixPixels (by decide) (by decide) (by decide)

end neutrinordp.bitmap

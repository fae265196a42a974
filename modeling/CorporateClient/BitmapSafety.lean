-- When `bitmap_decompress_ex` stays inside its buffers. The run-length decoders check nothing,
-- so the source must be a list of orders that fit, and the planar codec checks the size only
-- when it is done.
import CorporateClient.BitmapDecode
import CorporateClient.BitmapPlaneLaws

open List bytes

namespace neutrinordp.bitmap

/-! ## A decoded source is a list of orders -/

variable {t : Target} {s s' : Rle} {b : UInt8} {n : Nat} {tail : Bytes}

theorem set_fg.inv (h : set_fg t true s = .ok s') :
    ∃ pel, pel < 256 ^ t.depth.bytes ∧ s.pbSrc = pixelBytes t.depth [pel] ++ s'.pbSrc := by
  obtain ⟨⟨pel, s1⟩, hread, h⟩ := bind_eq_ok h
  cases h
  obtain ⟨rest, hsrc, hpel, rfl⟩ := read_pixel.inv hread
  exact ⟨pel, hpel, by rw [pixelBytes_one]; exact hsrc⟩

theorem unroll_bg_room (hs : s.dest.length ≤ t.pixels) (h : unroll (bg_pixel t) n s = .ok s') :
    s.dest.length + n ≤ t.pixels := by
  rw [unroll_bg, paint_all.spec t _ s hs, length_replicate] at h
  by_contra hroom
  rw [if_neg hroom] at h
  cases h

theorem put_pixel_room {v : Nat} (h : put_pixel t v s = .ok s') : s'.dest.length ≤ t.pixels := by
  unfold put_pixel at h
  split at h
  · cases h
    rw [length_append, length_singleton]
    omega
  · cases h

theorem background_not_zero (hpixels : t.pixels < 4294967295) (hinsert : s.fInsertFgPel = true)
    (h : Kind.background.body t n s = .ok s') : 1 ≤ n := by
  by_contra hzero
  obtain rfl : n = 0 := by omega
  obtain ⟨⟨m, s1⟩, hins, h⟩ := bind_eq_ok h
  obtain ⟨s2, hrun, -⟩ := bind_eq_ok h
  unfold insert_fg at hins
  rw [if_pos hinsert] at hins
  obtain ⟨s3, hfg, hins⟩ := bind_eq_ok hins
  have hm : m = 4294967295 := (congrArg Prod.fst (Except.ok.inj hins)).symm
  have hs : s1 = s3 := (congrArg Prod.snd (Except.ok.inj hins)).symm
  have hroom := unroll_bg_room (by rw [hs]; exact put_pixel_room hfg) hrun
  omega

/-- What an order that was carried out had behind its header. -/
structure Payload (t : Target) (kind : Kind) (n : Nat) (src : List UInt8) (pels : List Nat)
    (masks rest : List UInt8) : Prop where
  pelCount : pels.length = kind.pelCount n
  range : ∀ pel ∈ pels, pel < 256 ^ t.depth.bytes
  maskCount : masks.length = kind.maskCount n
  source : src = pixelBytes t.depth pels ++ (masks ++ rest)

theorem body_inv {kind : Kind} (h : kind.body t n s = .ok s') :
    ∃ pels masks rest, Payload t kind n s.pbSrc pels masks rest := by
  have hnone : ∀ pel ∈ ([] : List Nat), pel < 256 ^ t.depth.bytes :=
    forall_mem_nil _
  have hone : ∀ {pel}, pel < 256 ^ t.depth.bytes → ∀ p ∈ [pel], p < 256 ^ t.depth.bytes := by
    intro pel hpel p hp
    rw [mem_singleton.mp hp]
    exact hpel
  cases kind with
  | background | foreground => exact ⟨[], [], s.pbSrc, rfl, hnone, rfl, rfl⟩
  | setForeground =>
    obtain ⟨s1, hset, -⟩ := bind_eq_ok h
    obtain ⟨pel, hpel, hsrc⟩ := set_fg.inv hset
    exact ⟨[pel], [], _, rfl, hone hpel, rfl, hsrc⟩
  | dithered =>
    obtain ⟨⟨a, s1⟩, ha, h⟩ := bind_eq_ok h
    obtain ⟨⟨b, s2⟩, hb, -⟩ := bind_eq_ok h
    obtain ⟨rest, hsrc, hpel, rfl⟩ := read_pixel.inv ha
    obtain ⟨rest', hsrc', hpel', rfl⟩ := read_pixel.inv hb
    refine ⟨[a, b], [], rest', rfl, ?_, rfl, ?_⟩
    · intro p hp
      rcases mem_pair.mp hp with rfl | rfl
      · exact hpel
      · exact hpel'
    · rw [hsrc, show rest = _ from hsrc']
      simp [pixelBytes]
  | color =>
    obtain ⟨⟨pel, s1⟩, hread, -⟩ := bind_eq_ok h
    obtain ⟨rest, hsrc, hpel, rfl⟩ := read_pixel.inv hread
    exact ⟨[pel], [], rest, rfl, hone hpel, rfl, by rw [pixelBytes_one]; exact hsrc⟩
  | fgbg =>
    obtain ⟨masks, hlen, hsrc⟩ := image_loop.inv (n + 1) n (Nat.lt_succ_self n) h
    exact ⟨[], masks, _, rfl, hnone, hlen, hsrc⟩
  | setFgbg =>
    obtain ⟨s1, hset, h⟩ := bind_eq_ok h
    obtain ⟨pel, hpel, hsrc⟩ := set_fg.inv hset
    obtain ⟨masks, hlen, hsrc'⟩ := image_loop.inv (n + 1) n (Nat.lt_succ_self n) h
    exact ⟨[pel], masks, _, rfl, hone hpel, hlen, by rw [hsrc, hsrc']⟩
  | colorImage =>
    have hloop : rest_loop (copy_pixel t) n s = .ok s' := (unroll_eq _ n s).symm.trans h
    obtain ⟨pels, hlen, hrange, hsrc⟩ := copy_loop.inv n hloop
    exact ⟨pels, [], _, hlen, hrange, rfl, hsrc⟩

theorem code_cases (code : Code) :
    (∃ kind form, code = Kind.code kind form) ∨
      code ∈ [.SPECIAL_FGBG_1, .SPECIAL_FGBG_2, .SPECIAL_WHITE, .SPECIAL_BLACK] := by
  cases code with
  | REGULAR_BG_RUN => exact .inl ⟨.background, .short, rfl⟩
  | MEGA_MEGA_BG_RUN => exact .inl ⟨.background, .megaMega, rfl⟩
  | REGULAR_FG_RUN => exact .inl ⟨.foreground, .short, rfl⟩
  | MEGA_MEGA_FG_RUN => exact .inl ⟨.foreground, .megaMega, rfl⟩
  | LITE_SET_FG_FG_RUN => exact .inl ⟨.setForeground, .short, rfl⟩
  | MEGA_MEGA_SET_FG_RUN => exact .inl ⟨.setForeground, .megaMega, rfl⟩
  | LITE_DITHERED_RUN => exact .inl ⟨.dithered, .short, rfl⟩
  | MEGA_MEGA_DITHERED_RUN => exact .inl ⟨.dithered, .megaMega, rfl⟩
  | REGULAR_COLOR_RUN => exact .inl ⟨.color, .short, rfl⟩
  | MEGA_MEGA_COLOR_RUN => exact .inl ⟨.color, .megaMega, rfl⟩
  | REGULAR_FGBG_IMAGE => exact .inl ⟨.fgbg, .short, rfl⟩
  | MEGA_MEGA_FGBG_IMAGE => exact .inl ⟨.fgbg, .megaMega, rfl⟩
  | LITE_SET_FG_FGBG_IMAGE => exact .inl ⟨.setFgbg, .short, rfl⟩
  | MEGA_MEGA_SET_FGBG_IMAGE => exact .inl ⟨.setFgbg, .megaMega, rfl⟩
  | REGULAR_COLOR_IMAGE => exact .inl ⟨.colorImage, .short, rfl⟩
  | MEGA_MEGA_COLOR_IMAGE => exact .inl ⟨.colorImage, .megaMega, rfl⟩
  | SPECIAL_FGBG_1 | SPECIAL_FGBG_2 | SPECIAL_WHITE | SPECIAL_BLACK => exact .inr (by decide)

theorem special_code {d : Depth} {code : Code} (hcode : ExtractCodeId b = some code)
    (h : code ∈ [Code.SPECIAL_FGBG_1, .SPECIAL_FGBG_2, .SPECIAL_WHITE, .SPECIAL_BLACK]) :
    ∃ o : Order, o.isRun = false ∧ o.encode d = [b] := by
  simp only [mem_cons, not_mem_nil, or_false] at h
  rcases h with rfl | rfl | rfl | rfl
  · exact ⟨.fgbg1, rfl, by rw [code_whole hcode (by decide)]; rfl⟩
  · exact ⟨.fgbg2, rfl, by rw [code_whole hcode (by decide)]; rfl⟩
  · exact ⟨.white, rfl, by rw [code_whole hcode (by decide)]; rfl⟩
  · exact ⟨.black, rfl, by rw [code_whole hcode (by decide)]; rfl⟩

theorem rle_turn.inv {code : Code} (hpixels : t.pixels < 4294967295) (hs : s.pbSrc = b :: tail)
    (hcode : ExtractCodeId b = some code) (h : rle_turn t s = .ok s') :
    ∃ o rest, Order.Valid t.depth o ∧ s.pbSrc = o.encode t.depth ++ rest ∧
      (o.isBackground = true → (watch_first_line t s).fInsertFgPel = true → 1 ≤ o.pixelCount) := by
  rcases code_cases code with ⟨kind, form, rfl⟩ | hspecial
  · rw [rle_turn_code hs hcode, rle_order_run] at h
    obtain ⟨⟨n, s1⟩, hlen, hbody⟩ := bind_eq_ok h
    obtain ⟨form', rest, hform, hfits, hsrc, rfl⟩ :=
      order_length.inv (by exact (watch_pbSrc t s).trans hs) hcode hlen
    obtain ⟨pels, masks, rest', hpayload⟩ := body_inv hbody
    refine ⟨.run ⟨kind, form', n, pels, masks⟩, rest',
      ⟨hfits, hpayload.pelCount, hpayload.range, hpayload.maskCount⟩, ?_, ?_⟩
    · have hrest : rest = _ := hpayload.source
      have hsrc' : (watch_first_line t s).pbSrc = _ := hsrc
      rw [← watch_pbSrc t s, hsrc', hrest, Order.encode, RunOrder.encode]
      simp
    · intro hback hinsert
      obtain rfl : kind = .background := of_decide_eq_true hback
      have hpos : 1 ≤ n := background_not_zero hpixels (by exact hinsert) hbody
      exact hpos
  · obtain ⟨o, hrun, hbytes⟩ := special_code (d := t.depth) hcode hspecial
    refine ⟨o, tail, ?_, by rw [hbytes, hs]; rfl, ?_⟩
    · cases o with
      | run o => cases hrun
      | fgbg1 | fgbg2 | white | black => trivial
    · intro hback
      have hno := (special_facts hrun 0 false).2.2
      rw [hno] at hback
      cases hback

theorem rle_turn_stays (t : Target) (hs : s.pbSrc = b :: tail) (hcode : ExtractCodeId b = none) :
    rle_turn t s = .ok { watch_first_line t s with fInsertFgPel := false } := by
  have hbyte : src_byte (watch_first_line t s).pbSrc 0 = .ok b := by
    rw [watch_pbSrc, hs, src_byte_zero]
  unfold rle_turn
  simp only [hbyte, bind, Except.bind, hcode]
  rfl

theorem rle_loop_endless (hcode : ExtractCodeId b = none) (turns : Nat) (s : Rle)
    (hs : s.pbSrc = b :: tail) :
    rle_loop t turns s = .error .endless := by
  induction turns generalizing s with
  | zero => rfl
  | succ turns ih =>
    rw [rle_loop, if_pos (by rw [hs, length_cons]; omega), rle_turn_stays t hs hcode]
    exact ih _ ((watch_pbSrc t s).trans hs)

theorem rle_loop.inv (hrow : t.rowDelta < 2147483648) (hpixels : t.pixels < 4294967295)
    (turns : Nat) {p : Picture} (hs : Shows t p s) (hroom : p.pixels.length ≤ t.pixels)
    (h : rle_loop t turns s = .ok s') :
    ∃ orders, Admitted t.depth t.width p orders ∧ s.pbSrc = encodeAll t.depth orders ∧
      p.pixels.length + totalPixels orders ≤ t.pixels := by
  induction turns generalizing p s with
  | zero => cases h
  | succ turns ih =>
    cases hsrc : s.pbSrc with
    | nil => exact ⟨[], trivial, rfl, hroom⟩
    | cons b tail =>
      cases hcode : ExtractCodeId b with
      | none =>
        rw [rle_loop_endless hcode _ s hsrc] at h
        cases h
      | some code =>
        rw [rle_loop, if_pos (by rw [hsrc, length_cons]; omega)] at h
        obtain ⟨s1, hturn, hloop⟩ := bind_eq_ok h
        obtain ⟨o, rest, hv, hbytes, hzero⟩ := rle_turn.inv hpixels hsrc hcode hturn
        obtain ⟨-, hinsert⟩ := watch_shows hrow hs
        have hadmits : Admits t.width p o := fun hback hlast =>
          hzero hback (hinsert.trans (decide_eq_true hlast))
        rw [rle_turn.spec hv hbytes (by rw [hs.pixels]; exact hroom) hzero] at hturn
        split at hturn
        · rename_i hfit
          cases hturn
          rw [hs.pixels] at hfit
          have hlen := length_add hv hadmits
          obtain ⟨orders, hall, hrest, htotal⟩ := ih (shows_after hrow hs hv hadmits rest)
            (by omega) hloop
          refine ⟨o :: orders, ⟨hv, hadmits, hall⟩, ?_, ?_⟩
          · rw [← hsrc, hbytes, encodeAll, flatMap_cons]
            exact congrArg _ hrest
          · rw [totalPixels, map_cons, sum_cons, ← totalPixels]
            omega
        · cases hturn

/-- A list of orders that the decoder can be given: they fit the picture, and no background run
without pixels is where a foreground pixel is due. -/
def SafeOrders (t : Target) (srcData : List UInt8) : Prop :=
  ∃ orders, Admitted t.depth t.width emptyPicture orders ∧ srcData = encodeAll t.depth orders ∧
    totalPixels orders ≤ t.pixels

theorem length_pictures {d : Depth} {width : Nat} (orders : List Order) (p : Picture)
    (h : Admitted d width p orders) :
    (orders.foldl (Picture.add d width) p).pixels.length =
      p.pixels.length + totalPixels orders := by
  induction orders generalizing p with
  | nil => rfl
  | cons o orders ih =>
    obtain ⟨hv, hadmits, hall⟩ := h
    rw [foldl_cons, ih _ hall, length_add hv hadmits, totalPixels, totalPixels, map_cons,
      sum_cons, Nat.add_assoc]

theorem SafeOrders.decompress {srcData : Bytes} (h : SafeOrders t srcData)
    (hrow : t.rowDelta < 2147483648) :
    ∃ s, RLEDECOMPRESS t srcData = .ok s ∧ s.dest.length ≤ t.pixels := by
  obtain ⟨orders, hall, rfl, htotal⟩ := h
  have hfit : emptyPicture.pixels.length + totalPixels orders ≤ t.pixels := by
    rwa [show emptyPicture.pixels.length = 0 from rfl, Nat.zero_add]
  obtain ⟨s, hloop, -, hshows⟩ := rle_loop_orders hrow orders emptyPicture _
    ((encodeAll t.depth orders).length + 1) (rle_start_shows t _) rfl hall hfit (Nat.lt_succ_self _)
  refine ⟨s, hloop, ?_⟩
  rw [hshows.pixels, length_pictures orders _ hall]
  exact hfit

theorem SafeOrders.of_decompress {srcData : Bytes} (hrow : t.rowDelta < 2147483648)
    (hpixels : t.pixels < 4294967295) (h : RLEDECOMPRESS t srcData = .ok s) :
    SafeOrders t srcData := by
  obtain ⟨orders, hall, hsrc, htotal⟩ := rle_loop.inv hrow hpixels _ (rle_start_shows t srcData)
    (Nat.zero_le _) h
  rw [show emptyPicture.pixels.length = 0 from rfl, Nat.zero_add] at htotal
  exact ⟨orders, hall, hsrc, htotal⟩

/-! ## Progress -/

/-- A call that comes to an end: with a result that has the property, or outside the buffers. -/
def Ends {α : Type} (P : α → Prop) : Except Fault α → Prop
  | .ok a => P a
  | .error f => f ≠ .endless

section

variable {α β : Type} {P : α → Prop} {Q : β → Prop} {t : Target} {n : Nat}

theorem Ends.bind {x : Except Fault α} {f : α → Except Fault β} (hx : Ends P x)
    (hf : ∀ a, P a → Ends Q (f a)) : Ends Q (x >>= f) := by
  cases x with
  | error e => exact hx
  | ok a => exact hf a hx

theorem src_byte_ends (src : Bytes) (i : Nat) : Ends (fun _ => True) (src_byte src i) := by
  unfold src_byte
  cases src[i]? with
  | some b => trivial
  | none => exact nofun

/-- There are at most `n` bytes of the source left. -/
def Left (n : Nat) (s : Rle) : Prop := s.pbSrc.length ≤ n

theorem put_pixel_ends (v : Nat) (s : Rle) (hs : Left n s) : Ends (Left n) (put_pixel t v s) := by
  unfold put_pixel
  split
  · exact hs
  · exact nofun

theorem read_pixel_ends (s : Rle) (hs : Left n s) :
    Ends (fun r => Left n r.2) (read_pixel t s) := by
  unfold read_pixel
  split
  · exact nofun
  · show (s.pbSrc.drop _).length ≤ n
    exact (length_drop ▸ Nat.sub_le _ _).trans hs

theorem unroll_ends {step : Rle → Except Fault Rle}
    (hstep : ∀ s, Left n s → Ends (Left n) (step s)) (k : Nat) (s : Rle) (hs : Left n s) :
    Ends (Left n) (unroll step k s) := by
  rw [unroll_eq]
  induction k generalizing s with
  | zero => exact hs
  | succ k ih => exact (hstep s hs).bind ih

theorem write_bits_ends (bitmask : UInt8) (masks : Bytes) (cBits : Nat) (s : Rle)
    (hs : Left n s) : Ends (Left n) (write_bits t bitmask masks cBits s) := by
  induction masks generalizing cBits s with
  | nil => exact hs
  | cons mask masks ih =>
    rw [write_bits_cons]
    refine Ends.bind (P := Left n) ?_ fun s' hs' => ?_
    · split
      · exact put_pixel_ends _ s hs
      · exact put_pixel_ends _ s hs
    · split
      · exact ih _ s' hs'
      · exact hs'

theorem image_loop_ends (turns runLength : Nat) (s : Rle) (hs : Left n s) :
    Ends (Left n) (image_loop t turns runLength s) := by
  have hdrop : ∀ s : Rle, Left n s → Left n { s with pbSrc := s.pbSrc.drop 1 } :=
    fun s hs => (length_drop ▸ Nat.sub_le _ _).trans hs
  induction turns generalizing runLength s with
  | zero => exact hs
  | succ turns ih =>
    unfold image_loop
    split
    · refine (src_byte_ends _ _).bind fun bitmask _ => ?_
      exact (write_bits_ends bitmask _ _ _ (hdrop s hs)).bind (ih _)
    · split
      · refine (src_byte_ends _ _).bind fun bitmask _ => ?_
        exact write_bits_ends bitmask _ _ _ (hdrop s hs)
      · exact hs

theorem body_ends (kind : Kind) (k : Nat) (s : Rle) (hs : Left n s) :
    Ends (Left n) (kind.body t k s) := by
  have hset : Ends (Left n) (set_fg t true s) := (read_pixel_ends s hs).bind fun _ h => h
  cases kind with
  | background =>
    refine Ends.bind (P := fun r => Left n r.2) ?_ fun r hr => ?_
    · unfold insert_fg
      split
      · exact (put_pixel_ends _ s hs).bind fun _ h => h
      · exact hs
    · exact (unroll_ends (fun s => put_pixel_ends _ s) _ _ hr).bind fun _ h => h
  | foreground => exact unroll_ends (fun s => put_pixel_ends _ s) k s hs
  | setForeground => exact hset.bind (unroll_ends (fun s => put_pixel_ends _ s) k)
  | dithered =>
    refine (read_pixel_ends s hs).bind fun a ha => (read_pixel_ends a.2 ha).bind fun b hb => ?_
    exact unroll_ends (fun s hs => (put_pixel_ends a.1 s hs).bind (put_pixel_ends b.1)) k _ hb
  | color => exact (read_pixel_ends s hs).bind fun a => unroll_ends (put_pixel_ends a.1) k _
  | fgbg => exact image_loop_ends _ k s hs
  | setFgbg => exact hset.bind (image_loop_ends _ k)
  | colorImage =>
    exact unroll_ends (fun s hs => (read_pixel_ends s hs).bind fun a => put_pixel_ends a.1 _) k s hs

theorem order_length_ends (code : Code) (s : Rle) (hs : Left (n + 1) s) :
    Ends (fun r => Left n r.2) (order_length code s) := by
  have hlength : Ends (fun r => 1 ≤ r.2) (ExtractRunLength code s.pbSrc) := by
    have himage : ∀ mask, Ends (fun r => 1 ≤ r.2) (image_length mask s.pbSrc) := by
      intro mask
      refine (src_byte_ends _ _).bind fun hdr _ => ?_
      dsimp only
      split
      · exact (src_byte_ends _ _).bind fun _ _ => Nat.le_succ 1
      · exact Nat.le_refl 1
    have hrun : ∀ mask extra, Ends (fun r => 1 ≤ r.2) (run_length mask extra s.pbSrc) := by
      intro mask extra
      refine (src_byte_ends _ _).bind fun hdr _ => ?_
      dsimp only
      split
      · exact (src_byte_ends _ _).bind fun _ _ => Nat.le_succ 1
      · exact Nat.le_refl 1
    have hmega : Ends (fun r => 1 ≤ r.2) (mega_mega_length s.pbSrc) :=
      (src_byte_ends _ _).bind fun _ _ => (src_byte_ends _ _).bind fun _ _ => Nat.le_add_left 1 2
    have hone : Ends (fun r : Nat × Nat => 1 ≤ r.2) (pure (0, 1)) := Nat.le_refl 1
    cases code <;> first | exact himage _ | exact hrun _ _ | exact hmega | exact hone
  refine hlength.bind fun r hr => ?_
  show (s.pbSrc.drop r.2).length ≤ n
  rw [length_drop]
  unfold Left at hs
  omega

theorem special_ends {f : Rle → Except Fault Rle} (hf : ∀ s, Left n s → Ends (Left n) (f s))
    (s : Rle) (hs : Left (n + 1) s) : Ends (Left n) (special f s) := by
  apply hf
  show (s.pbSrc.drop 1).length ≤ n
  rw [length_drop]
  unfold Left at hs
  omega

end

theorem rle_turn_ends {t : Target} {s : Rle} {b : UInt8} {tail : Bytes} {code : Code}
    (hs : s.pbSrc = b :: tail) (hcode : ExtractCodeId b = some code) :
    Ends (Left tail.length) (rle_turn t s) := by
  have hleft : Left (tail.length + 1) (watch_first_line t s) := by
    unfold Left
    rw [watch_pbSrc, hs, length_cons]
  rw [rle_turn_code hs hcode]
  rcases code_cases code with ⟨kind, form, rfl⟩ | hspecial
  · rw [rle_order_run]
    refine Ends.bind (order_length_ends _ _ ?_) fun r hr => body_ends kind r.1 r.2 hr
    exact hleft
  · simp only [mem_cons, not_mem_nil, or_false] at hspecial
    rcases hspecial with rfl | rfl | rfl | rfl
    · exact special_ends (write_bits_ends _ _ _) _ hleft
    · exact special_ends (write_bits_ends _ _ _) _ hleft
    · exact special_ends (put_pixel_ends _) _ hleft
    · exact special_ends (put_pixel_ends _) _ hleft

/-- The states at the head of the main loop. -/
inductive AtLoop (t : Target) (pbSrcBuffer : List UInt8) : Rle → Prop
  | start : AtLoop t pbSrcBuffer (rle_start pbSrcBuffer)
  | turn {s s' : Rle} (hs : AtLoop t pbSrcBuffer s) (hmore : s.pbSrc.length > 0)
    (hturn : rle_turn t s = .ok s') : AtLoop t pbSrcBuffer s'

/-- The next turn moves `pbSrc`. -/
def Advances (t : Target) (s : Rle) : Prop :=
  s.pbSrc.length > 0 → ∀ s', rle_turn t s = .ok s' → s'.pbSrc.length < s.pbSrc.length

/-- The headers that no order has. -/
def unassigned : List Nat := range' 0xA0 0x20 ++ [0xF5, 0xFB, 0xFC, 0xFF]

def HeaderAssigned (s : Rle) : Prop := ∀ b tail, s.pbSrc = b :: tail → b.toNat ∉ unassigned

theorem extractCodeId_none (b : UInt8) : ExtractCodeId b = none ↔ b.toNat ∈ unassigned := by
  have hall : ∀ n < 256, (ExtractCodeId (UInt8.ofNat n) = none ↔ n ∈ unassigned) := by
    decide +kernel
  have hb := hall b.toNat b.toNat_lt
  rwa [UInt8.ofNat_toNat] at hb

theorem advances_iff (t : Target) (s : Rle) : Advances t s ↔ HeaderAssigned s := by
  refine ⟨fun h b tail hs hbad => ?_, fun h hmore s' hturn => ?_⟩
  · have hstays := rle_turn_stays t hs ((extractCodeId_none b).mpr hbad)
    have hless := h (by rw [hs]; exact Nat.succ_pos _) _ hstays
    rw [watch_pbSrc] at hless
    omega
  · obtain ⟨b, tail, hs⟩ := exists_cons_of_length_pos hmore
    cases hcode : ExtractCodeId b with
    | none => exact absurd ((extractCodeId_none b).mp hcode) (h b tail hs)
    | some code =>
      have hends := rle_turn_ends (t := t) hs hcode
      rw [hturn] at hends
      rw [hs]
      exact Nat.lt_succ_of_le hends

theorem rle_loop_ends {t : Target} {pbSrcBuffer : Bytes}
    (hall : ∀ s, AtLoop t pbSrcBuffer s → HeaderAssigned s) (turns : Nat) (s : Rle)
    (hs : AtLoop t pbSrcBuffer s) (hturns : s.pbSrc.length < turns) :
    rle_loop t turns s ≠ .error .endless := by
  induction turns generalizing s with
  | zero => omega
  | succ turns ih =>
    rw [rle_loop]
    cases hsrc : s.pbSrc with
    | nil =>
      intro heq
      cases heq
    | cons b tail =>
      have hmore : s.pbSrc.length > 0 := by rw [hsrc]; exact Nat.succ_pos _
      cases hturn : rle_turn t s with
      | ok s' =>
        have hless := (advances_iff t s).mpr (hall s hs) hmore s' hturn
        exact ih s' (.turn hs hmore hturn) (by omega)
      | error f =>
        cases hcode : ExtractCodeId b with
        | none => exact absurd ((extractCodeId_none b).mp hcode) (hall s hs b tail hsrc)
        | some code =>
          have hends := rle_turn_ends (t := t) hsrc hcode
          rw [hturn] at hends
          exact fun heq => hends (Except.error.inj heq)

/-- Every turn of the main loop moves `pbSrc` and the loop ends, however much memory there is
behind the destination. -/
def Progresses (depth : Depth) (width height : Nat) (pbSrcBuffer : List UInt8) : Prop :=
  ∀ beyond, (∀ s, AtLoop ⟨depth, width, height, beyond⟩ pbSrcBuffer s →
      Advances ⟨depth, width, height, beyond⟩ s) ∧
    RLEDECOMPRESS ⟨depth, width, height, beyond⟩ pbSrcBuffer ≠ .error .endless

/-- The loop makes progress exactly if every turn starts at a header that an order has. -/
theorem rle_makes_progress_iff (depth : Depth) (width height : Nat) (pbSrcBuffer : List UInt8) :
    Progresses depth width height pbSrcBuffer ↔
      ∀ beyond s, AtLoop ⟨depth, width, height, beyond⟩ pbSrcBuffer s → HeaderAssigned s := by
  refine ⟨fun h beyond s hs => (advances_iff _ s).mp ((h beyond).1 s hs), fun h beyond => ⟨?_, ?_⟩⟩
  · intro s hs
    exact (advances_iff _ s).mpr (h beyond s hs)
  · exact rle_loop_ends (h beyond) _ _ .start (Nat.lt_succ_self _)

/-- The header 0xA0 is no order. The loop meets it again and again, also behind a run of two
pixels for a destination of one pixel. -/
theorem unknown_header_is_met_again :
    ¬ Progresses .depth8 1 1 [0xA0] ∧ ¬ Progresses .depth8 1 1 [0x02, 0xA0] :=
  ⟨fun h => (h 0).2 (by decide), fun h => (h 1).2 (by decide)⟩

/-! ## Lines upside down -/

def read_line (width offset : Nat) (dstData : List Nat) : Except Fault (List Nat) :=
  if offset + width ≤ dstData.length then .ok ((dstData.drop offset).take width)
  else .error .dstOverrun

def write_line (offset : Nat) (line dstData : List Nat) : Except Fault (List Nat) :=
  if offset + line.length ≤ dstData.length then
    .ok (dstData.take offset ++ line ++ dstData.drop (offset + line.length))
  else .error .dstOverrun

def flip_loop (width height : Nat) : Nat → Nat → List Nat → Except Fault (List Nat)
  | 0, _, dstData => pure dstData
  | left + 1, i, dstData => do
    let tmpBfr ← read_line width (i * width) dstData
    let bottomLine ← read_line width ((height - 1 - i) * width) dstData
    let dstData ← write_line (i * width) bottomLine dstData
    let dstData ← write_line ((height - 1 - i) * width) tmpBfr dstData
    flip_loop width height left (i + 1) dstData

/-- `freerdp_bitmap_flip` in place, through a buffer for a line. `xmalloc` has no buffer of more
than 16 MiB. -/
def freerdp_bitmap_flip (depth : Depth) (width height : Nat) (dstData : List Nat) :
    Except Fault (List Nat) :=
  if height / 2 > 0 ∧ depth.bytes * width > 16 * 1024 * 1024 then .error .noBuffer
  else flip_loop width height (height / 2) 0 dstData

theorem read_line.spec {width offset : Nat} {dst : List Nat} (h : offset + width ≤ dst.length) :
    ∃ line, read_line width offset dst = .ok line ∧ line.length = width := by
  refine ⟨_, if_pos h, ?_⟩
  rw [length_take, length_drop]
  omega

theorem write_line.spec (offset : Nat) (line dst : List Nat)
    (h : offset + line.length ≤ dst.length) :
    ∃ dst', write_line offset line dst = .ok dst' ∧ dst'.length = dst.length := by
  refine ⟨_, if_pos h, ?_⟩
  rw [length_append, length_append, length_take, length_drop]
  omega

theorem flip_loop.spec {width height : Nat} (left i : Nat) (dst : List Nat)
    (hi : i + left ≤ height) (hdst : dst.length = width * height) :
    ∃ dst', flip_loop width height left i dst = .ok dst' := by
  induction left generalizing i dst with
  | zero => exact ⟨dst, rfl⟩
  | succ left ih =>
    have hline : ∀ j < height, j * width + width ≤ dst.length := by
      intro j hj
      have hle := Nat.mul_le_mul_right width (Nat.succ_le_of_lt hj)
      rw [Nat.succ_mul, Nat.mul_comm height] at hle
      omega
    obtain ⟨top, htop, htopLen⟩ := read_line.spec (hline i (by omega))
    obtain ⟨bottom, hbottom, hbottomLen⟩ := read_line.spec (hline (height - 1 - i) (by omega))
    obtain ⟨dst1, hone, hlen1⟩ := write_line.spec _ bottom dst
      (by rw [hbottomLen]; exact hline i (by omega))
    obtain ⟨dst2, htwo, hlen2⟩ := write_line.spec _ top dst1
      (by rw [htopLen, hlen1]; exact hline (height - 1 - i) (by omega))
    obtain ⟨dst', hrest⟩ := ih (i + 1) dst2 (by omega) (hlen2.trans (hlen1.trans hdst))
    refine ⟨dst', ?_⟩
    simp only [flip_loop, htop, hbottom, hone, htwo, bind, Except.bind]
    exact hrest

/-! ## Every depth -/

/-- A run-length decoder and the flip. The pixels that no order drew are as they were. -/
def rle_bitmap (depth : Depth) (srcData : List UInt8) (dstData : List Nat) (width height : Nat) :
    Except Fault (Bool × List Nat) := do
  let s ← RLEDECOMPRESS ⟨depth, width, height, 0⟩ srcData
  let dstData ← freerdp_bitmap_flip depth width height (s.dest ++ dstData.drop s.dest.length)
  pure (true, dstData)

def bitmap_decompress_ex (srcData : List UInt8) (dstData : List Nat) (width height : Nat)
    (srcBpp dstBpp : Nat) (temp : List UInt8) : Except Fault (Bool × List Nat) :=
  if srcBpp = 16 ∧ dstBpp = 16 then rle_bitmap .depth16 srcData dstData width height
  else if srcBpp = 32 ∧ dstBpp = 32 then bitmap_decompress4 srcData dstData width height temp
  else if srcBpp = 15 ∧ dstBpp = 15 then rle_bitmap .depth16 srcData dstData width height
  else if srcBpp = 8 ∧ dstBpp = 8 then rle_bitmap .depth8 srcData dstData width height
  else if srcBpp = 24 ∧ dstBpp = 24 then rle_bitmap .depth24 srcData dstData width height
  else pure (false, dstData)

/-- The run-length decoder of a depth. -/
def rleDepth (bpp : Nat) : Depth :=
  if bpp = 8 then .depth8 else if bpp = 24 then .depth24 else .depth16

/-- Whole orders that fit the picture, whatever their lengths. -/
def WellFormedRle (t : Target) (srcData : List UInt8) : Prop :=
  ∃ orders, (∀ o ∈ orders, Order.Valid t.depth o) ∧ srcData = encodeAll t.depth orders ∧
    totalPixels orders ≤ t.pixels

def WellFormed (width height bpp : Nat) (srcData : List UInt8) : Prop :=
  if bpp = 32 then WellFormed32 width height srcData
  else WellFormedRle ⟨rleDepth bpp, width, height, 0⟩ srcData

/-- No fault, and `false` for what is malformed or too long. -/
def DecompressesSafely (srcData : List UInt8) (dstData : List Nat) (width height bpp : Nat)
    (temp : List UInt8) : Prop :=
  ∃ ok dst, bitmap_decompress_ex srcData dstData width height bpp bpp temp = .ok (ok, dst) ∧
    (¬ WellFormed width height bpp srcData → ok = false)

/-- There is a buffer for the flip. -/
def RowFits (depth : Depth) (width height : Nat) : Prop :=
  1 < height → depth.bytes * width ≤ 16 * 1024 * 1024

/-- A source that the codec of a depth can be given, with the size of `temp`. -/
def SafeSource (width height bpp room : Nat) (srcData : List UInt8) : Prop :=
  if bpp = 32 then Safe32 width height room srcData
  else SafeOrders ⟨rleDepth bpp, width, height, 0⟩ srcData ∧ RowFits (rleDepth bpp) width height

theorem Admitted.valid {d : Depth} {width : Nat} {orders : List Order} {p : Picture}
    (h : Admitted d width p orders) : ∀ o ∈ orders, o.Valid d := by
  induction orders generalizing p with
  | nil => exact forall_mem_nil _
  | cons o orders ih =>
    obtain ⟨hv, -, hall⟩ := h
    exact forall_mem_cons.mpr ⟨hv, ih hall⟩

theorem rle_bitmap_iff {depth : Depth} {width height : Nat} {srcData : Bytes}
    {dstData : List Nat} (hrow : depth.bytes * width < 2147483648)
    (hpixels : width * height < 4294967295) (hdst : dstData.length = width * height) :
    (∃ ok dst, rle_bitmap depth srcData dstData width height = .ok (ok, dst) ∧
      (¬ WellFormedRle ⟨depth, width, height, 0⟩ srcData → ok = false)) ↔
      SafeOrders ⟨depth, width, height, 0⟩ srcData ∧ RowFits depth width height := by
  constructor
  · rintro ⟨ok, dst, hrun, -⟩
    obtain ⟨s, hrle, hrun⟩ := bind_eq_ok hrun
    obtain ⟨dst', hflip, -⟩ := bind_eq_ok hrun
    refine ⟨SafeOrders.of_decompress hrow hpixels hrle, fun hheight => ?_⟩
    by_contra hlong
    rw [freerdp_bitmap_flip, if_pos ⟨by omega, Nat.not_le.mp hlong⟩] at hflip
    cases hflip
  · rintro ⟨hsafe, hrows⟩
    obtain ⟨s, hrle, hroom⟩ := hsafe.decompress hrow
    obtain ⟨orders, hall, hsrc, htotal⟩ := hsafe
    have hlen : (s.dest ++ dstData.drop s.dest.length).length = width * height := by
      have hroom' : s.dest.length ≤ width * height := hroom
      rw [length_append, length_drop]
      omega
    obtain ⟨dst, hflip⟩ : ∃ dst, freerdp_bitmap_flip depth width height
        (s.dest ++ dstData.drop s.dest.length) = .ok dst := by
      rw [freerdp_bitmap_flip, if_neg fun hlong => Nat.not_le.mpr hlong.2 (hrows (by omega))]
      exact flip_loop.spec (height / 2) 0 _ (by omega) hlen
    refine ⟨true, dst, ?_, fun hbad => absurd ⟨orders, hall.valid, hsrc, htotal⟩ hbad⟩
    unfold rle_bitmap
    rw [hrle]
    show (freerdp_bitmap_flip depth width height (s.dest ++ dstData.drop s.dest.length)).bind _ = _
    rw [hflip]
    rfl

theorem safely_rle (depth : Depth) {width height bpp : Nat} {srcData temp : Bytes}
    {dstData : List Nat} (hdepth : rleDepth bpp = depth) (hbpp : bpp ≠ 32)
    (hrun : bitmap_decompress_ex srcData dstData width height bpp bpp temp =
      rle_bitmap depth srcData dstData width height)
    (hrow : depth.bytes * width < 2147483648) (hpixels : width * height < 4294967295)
    (hdst : dstData.length = width * height) :
    DecompressesSafely srcData dstData width height bpp temp ↔
      SafeSource width height bpp temp.length srcData := by
  unfold DecompressesSafely SafeSource WellFormed
  rw [if_neg hbpp, hdepth, hrun]
  simp only [if_neg hbpp]
  exact rle_bitmap_iff hrow hpixels hdst

/-- Decompression is safe exactly for sources that are whole orders or planes. The sizes of the
buffers are computed in `int` by the callers. -/
theorem bitmap_decompression_is_safe_iff {width height bpp : Nat} {srcData temp : List UInt8}
    {dstData : List Nat} (hbpp : bpp ∈ [8, 15, 16, 24, 32])
    (hrow : (bpp + 7) / 8 * width < 2147483648)
    (hsize : (bpp + 7) / 8 * (width * height) < 2147483648)
    (hdst : dstData.length = width * height) :
    DecompressesSafely srcData dstData width height bpp temp ↔
      SafeSource width height bpp temp.length srcData := by
  simp only [mem_cons, not_mem_nil, or_false] at hbpp
  rcases hbpp with rfl | rfl | rfl | rfl | rfl
  · exact safely_rle .depth8 rfl (by decide) rfl hrow (by omega) hdst
  · exact safely_rle .depth16 rfl (by decide) rfl hrow (by omega) hdst
  · exact safely_rle .depth16 rfl (by decide) rfl hrow (by omega) hdst
  · exact safely_rle .depth24 rfl (by decide) rfl hrow (by omega) hdst
  · exact bitmap_decompress4_iff hdst

theorem black_pixel_is_safe : DecompressesSafely [0xFE] [7] 1 1 8 [] :=
  (bitmap_decompression_is_safe_iff (by decide) (by decide) (by decide) rfl).mpr
    ⟨⟨[.black], ⟨trivial, nofun, trivial⟩, rfl, by decide⟩, fun _ => by decide⟩

/-- A color run without its pixel, a run over the end of the picture, a header without a case,
and a plane of two pixels for one. -/
theorem bitmap_decompression_counterexample :
    bitmap_decompress_ex [0x61] [7] 1 1 8 8 [] = .error .srcOverrun ∧
      bitmap_decompress_ex [0x02] [7] 1 1 8 8 [] = .error .dstOverrun ∧
      bitmap_decompress_ex [0xFF] [7] 1 1 8 8 [] = .error .endless ∧
      bitmap_decompress_ex [0x30, 0x20, 1, 2] [7] 1 1 32 32 [0, 0, 0, 0] = .error .planeOverrun ∧
      ¬ DecompressesSafely [0x61] [7] 1 1 8 [] := by
  refine ⟨by decide, by decide, by decide, by decide, ?_⟩
  rintro ⟨ok, dst, hrun, -⟩
  cases hrun

/-! ## The buffer of a bitmap -/

/-- `allocated` is the size of the block at `data`. -/
structure rdpBitmap where
  width : Nat
  height : Nat
  bpp : Nat
  length : Nat
  compressed : Bool
  allocated : Nat

/-- The product is an `int`, and the quotient is cut off to an `uint16`. -/
def decompressed_size (width height bpp : Nat) : Nat :=
  ((Int.bmod (width * height * (bpp + 7) : Nat) (2 ^ 32)).tdiv 8 % 65536).toNat

/-- The block gets its size before the switch over the codecs. Each decoder writes into the block,
and no size depends on what it does. -/
def gdi_Bitmap_Decompress (bitmap : rdpBitmap) (width height bpp : Nat) : rdpBitmap :=
  let size := decompressed_size width height bpp
  { bitmap with width, height, compressed := false, length := size, bpp, allocated := size }

inductive CODEC_ID where
  | CODEC_ID_NONE
  | CODEC_ID_NSCODEC
  | CODEC_ID_JPEG
  | CODEC_ID_REMOTEFX

/-- There is room for all pixels. The copy of a RemoteFX tile writes three bytes for each of them,
whatever the depth is. The other decoders write as many as the depth has, or fewer. -/
@[mk_iff] structure HasRoom (bitmap : rdpBitmap) (codec_id : CODEC_ID) : Prop where
  pixels : bitmap.width * bitmap.height * ((bitmap.bpp + 7) / 8) ≤ bitmap.allocated
  tile : codec_id = .CODEC_ID_REMOTEFX → bitmap.width * bitmap.height * 3 ≤ bitmap.allocated

/-- The pixels of a bitmap have room exactly when the size fits into 16 bits, or there is nothing
to write, and a tile of RemoteFX comes with a depth of three bytes. -/
theorem decompressed_pixels_have_room_iff (bitmap : rdpBitmap) (width height bpp : Nat)
    (codec_id : CODEC_ID) :
    HasRoom (gdi_Bitmap_Decompress bitmap width height bpp) codec_id ↔
      (width * height * ((bpp + 7) / 8) = 0 ∨ width * height * (bpp + 7) / 8 < 65536) ∧
      (codec_id = .CODEC_ID_REMOTEFX → width * height = 0 ∨ 17 ≤ bpp) := by
  unfold gdi_Bitmap_Decompress
  rw [hasRoom_iff]
  unfold decompressed_size
  -- the bytes of whole pixels, and what the quotient has above them
  obtain ⟨bytes, part, hdepth, hpart⟩ : ∃ bytes part, bpp + 7 = 8 * bytes + part ∧ part < 8 :=
    ⟨_, _, (Nat.div_add_mod _ 8).symm, Nat.mod_lt _ (by decide)⟩
  have hbytes : (bpp + 7) / 8 = bytes := by omega
  have hproduct : width * height * (bpp + 7) =
      8 * (width * height * bytes) + width * height * part := by
    rw [hdepth, Nat.mul_add, Nat.mul_left_comm]
  have habove : width * height * part ≤ 7 * (width * height) := by
    rw [Nat.mul_comm 7]
    exact Nat.mul_le_mul_left _ (by omega)
  have hpixels : width * height * bytes = 0 ∨ width * height ≤ width * height * bytes := by
    rcases Nat.eq_zero_or_pos bytes with rfl | hpos
    · exact .inl rfl
    · exact .inr (Nat.le_mul_of_pos_right _ hpos)
  have hthree : if 17 ≤ bpp then width * height * 3 ≤ width * height * bytes else
      width * height * (bpp + 7) ≤ width * height * 23 := by
    split_ifs <;> exact Nat.mul_le_mul_left _ (by omega)
  have hquotient : width * height * (bpp + 7) < 2 ^ 31 → (Int.bmod (width * height * (bpp + 7) :
      Nat) (2 ^ 32)).tdiv 8 = (width * height * (bpp + 7) / 8 : Nat) := by
    intro hlt
    rw [Int.bmod_eq_of_le (by omega) (by omega), Int.tdiv_eq_ediv_of_nonneg (by omega)]
    rfl
  rw [hbytes]
  generalize (Int.bmod (width * height * (bpp + 7) : Nat) (2 ^ 32)).tdiv 8 = quotient at hquotient ⊢
  by_cases hrfx : codec_id = .CODEC_ID_REMOTEFX
  · simp only [hrfx, true_imp_iff]
    split_ifs at hthree <;> omega
  · simp only [hrfx, false_imp_iff, and_true]
    omega

/-- A bitmap of 256 rows of 256 pixels gets 8192 bytes too few. -/
theorem large_bitmap_has_no_room :
    ¬ HasRoom (gdi_Bitmap_Decompress ⟨0, 0, 0, 0, false, 0⟩ 256 256 8) .CODEC_ID_NONE :=
  fun h => absurd h.pixels (by decide)

end neutrinordp.bitmap

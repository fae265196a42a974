-- Who owns the tiles of a RemoteFX codec. A tile is in the pool or belongs to one message, and a
-- message gives back what it took. This holds as long as no message takes tiles twice: then the
-- first ones are lost.
import CorporateClient.RfxMessage
import Mathlib.Data.List.Perm.Basic
import Mathlib.Data.List.Range

open List

namespace neutrinordp.rfx

/-! ## The pool -/

/-- The tiles that exist are those in the pool and those that are owned, each exactly once. -/
def Partition (pool : RFX_POOL) (owned : List Nat) : Prop :=
  (pool.tiles ++ owned).Perm (range pool.allocated)

theorem rfx_pool_get_tile.spec {pool : RFX_POOL} {owned : List Nat} (h : Partition pool owned) :
    Partition (rfx_pool_get_tile pool).2 ((rfx_pool_get_tile pool).1 :: owned) := by
  unfold Partition at h ⊢
  unfold rfx_pool_get_tile
  cases htiles : pool.tiles with
  | nil =>
    rw [htiles, nil_append] at h
    show (pool.tiles ++ (pool.allocated :: owned)).Perm (range (pool.allocated + 1))
    rw [htiles, nil_append, range_succ]
    exact (h.cons pool.allocated).trans (perm_append_singleton _ _).symm
  | cons tile tiles =>
    rw [htiles] at h
    exact perm_middle.trans h

theorem rfx_pool_get_tiles.spec (count : Nat) {pool : RFX_POOL} {owned : List Nat}
    (h : Partition pool owned) :
    Partition (rfx_pool_get_tiles count pool).2 ((rfx_pool_get_tiles count pool).1 ++ owned) ∧
      (rfx_pool_get_tiles count pool).1.length = count := by
  induction count generalizing pool owned with
  | zero => exact ⟨h, rfl⟩
  | succ count ih =>
    have hfirst := rfx_pool_get_tile.spec h
    unfold rfx_pool_get_tiles
    obtain ⟨hrest, hlength⟩ := ih hfirst
    exact ⟨(perm_middle.symm.append_left _).trans hrest, congrArg Nat.succ hlength⟩

theorem rfx_pool_put_tiles.spec (tiles : List Nat) {pool : RFX_POOL} {owned : List Nat}
    (h : Partition pool (tiles ++ owned)) : Partition (rfx_pool_put_tiles pool tiles) owned := by
  induction tiles generalizing pool with
  | nil => exact h
  | cons tile tiles ih =>
    refine ih ?_
    exact perm_middle.symm.trans h

/-! ## What a block does -/

/-- Two pools with the same tiles, whatever is in them. -/
def SameTiles (pool pool' : RFX_POOL) : Prop :=
  pool'.tiles = pool.tiles ∧ pool'.allocated = pool.allocated

theorem SameTiles.partition {pool pool' : RFX_POOL} (h : SameTiles pool pool') (owned : List Nat) :
    Partition pool' owned ↔ Partition pool owned := by
  unfold Partition
  rw [h.1, h.2]

section blocks

variable {m : Memory}

theorem tile_loop_same (tiles : List Nat) (p : Int) (context : RFX_CONTEXT) :
    SameTiles context.pool (tile_loop m tiles p context).pool := by
  induction tiles generalizing p context with
  | nil => exact ⟨rfl, rfl⟩
  | cons tile tiles ih =>
    unfold tile_loop
    split_ifs
    · exact ⟨rfl, rfl⟩
    · exact ih _ _

/-- A tileset block that gets as far as the number of its tiles. -/
def CountsTiles (m : Memory) (p : Int) : Prop :=
  uint16_at m p = CBT_TILESET ∧ ¬ uint8_at m (p + 6) < 1

variable (p : Int) (context : RFX_CONTEXT)

theorem rfx_process_message_tileset.inv (message : RFX_MESSAGE) : (¬ CountsTiles m p ∧
      SameTiles context.pool (rfx_process_message_tileset m p context message).1.pool ∧
      (rfx_process_message_tileset m p context message).2 = message) ∨
    (CountsTiles m p ∧
      SameTiles context.pool (rfx_process_message_tileset m p context message).1.pool ∧
      (rfx_process_message_tileset m p context message).2 = { message with num_tiles := 0 }) ∨
    (CountsTiles m p ∧ ∃ n, 1 ≤ n ∧
      SameTiles (rfx_pool_get_tiles n context.pool).2
        (rfx_process_message_tileset m p context message).1.pool ∧
      (rfx_process_message_tileset m p context message).2 =
        { message with num_tiles := n, tiles := (rfx_pool_get_tiles n context.pool).1 }) := by
  unfold rfx_process_message_tileset CountsTiles
  by_cases hsubtype : uint16_at m p = CBT_TILESET
  · rw [if_neg (fun hne => hne hsubtype)]
    by_cases hquants : uint8_at m (p + 6) < 1
    · rw [if_pos hquants]
      exact .inl ⟨fun hcounts => hcounts.2 hquants, ⟨rfl, rfl⟩, rfl⟩
    · rw [if_neg hquants]
      by_cases htiles : uint16_at m (p + 8) < 1
      · rw [if_pos htiles]
        have hzero : uint16_at m (p + 8) = 0 := by omega
        rw [hzero]
        exact .inr (.inl ⟨⟨hsubtype, hquants⟩, ⟨rfl, rfl⟩, rfl⟩)
      · rw [if_neg htiles]
        exact .inr (.inr ⟨⟨hsubtype, hquants⟩, _, Nat.le_of_not_lt htiles,
          tile_loop_same _ _ _, rfl⟩)
  · rw [if_pos hsubtype]
    exact .inl ⟨fun hcounts => hsubtype hcounts.1, ⟨rfl, rfl⟩, rfl⟩

theorem region_tiles (message : RFX_MESSAGE) :
    (rfx_process_message_region m p message).tiles = message.tiles ∧
      (rfx_process_message_region m p message).num_tiles = message.num_tiles := by
  unfold rfx_process_message_region
  dsimp only
  split_ifs
  · exact ⟨rfl, rfl⟩
  · exact ⟨rfl, rfl⟩

theorem sync_same : SameTiles context.pool (rfx_process_message_sync m p context).pool := by
  unfold rfx_process_message_sync
  split_ifs <;> exact ⟨rfl, rfl⟩

theorem codec_versions_same :
    SameTiles context.pool (rfx_process_message_codec_versions m p context).pool := by
  unfold rfx_process_message_codec_versions
  split_ifs <;> exact ⟨rfl, rfl⟩

theorem channels_same : SameTiles context.pool (rfx_process_message_channels m p context).pool := by
  unfold rfx_process_message_channels
  split_ifs <;> exact ⟨rfl, rfl⟩

theorem process_block_other {blockType : Nat} (h : blockType ≠ WBT_EXTENSION) (body pos : Int)
    (s : Parse) :
    SameTiles s.context.pool (process_block m blockType body pos s).context.pool ∧
      (process_block m blockType body pos s).message.tiles = s.message.tiles ∧
      (process_block m blockType body pos s).message.num_tiles = s.message.num_tiles := by
  unfold process_block
  split_ifs
  · exact ⟨sync_same (m := m) body s.context, rfl, rfl⟩
  · exact ⟨codec_versions_same (m := m) body s.context, rfl, rfl⟩
  · exact ⟨channels_same (m := m) body s.context, rfl, rfl⟩
  · exact ⟨⟨rfl, rfl⟩, rfl, rfl⟩
  · exact ⟨⟨rfl, rfl⟩, region_tiles body s.message⟩
  · exact ⟨⟨rfl, rfl⟩, rfl, rfl⟩

theorem process_block_extension (body pos : Int) (s : Parse) :
    process_block m WBT_EXTENSION body pos s =
      ⟨pos, (rfx_process_message_tileset m body s.context s.message).1,
        (rfx_process_message_tileset m body s.context s.message).2⟩ := by
  rfl

/-- The reader stands in front of such a tileset block. -/
def AtTileset (m : Memory) (s : Parse) : Prop :=
  uint16_at m s.p = WBT_EXTENSION ∧ CountsTiles m (s.p + 8)

theorem process_turn.inv {s s' : Parse} (h : process_turn m s = some s') :
    (¬ AtTileset m s ∧ SameTiles s.context.pool s'.context.pool ∧
      s'.message.tiles = s.message.tiles ∧ s'.message.num_tiles = s.message.num_tiles) ∨
    (AtTileset m s ∧ SameTiles s.context.pool s'.context.pool ∧
      s'.message.tiles = s.message.tiles ∧ s'.message.num_tiles = 0) ∨
    (AtTileset m s ∧ ∃ n, 1 ≤ n ∧
      SameTiles (rfx_pool_get_tiles n s.context.pool).2 s'.context.pool ∧
      s'.message.tiles = (rfx_pool_get_tiles n s.context.pool).1 ∧ s'.message.num_tiles = n) := by
  unfold process_turn at h
  dsimp only at h
  split at h
  · exact absurd h (by simp)
  rw [Option.some.injEq] at h
  by_cases htype : uint16_at m s.p = WBT_EXTENSION
  · rw [htype, if_pos (by decide), process_block_extension] at h
    subst h
    rcases rfx_process_message_tileset.inv (m := m) (s.p + 8) s.context s.message with
      ⟨hcounts, hpool, hmessage⟩ | ⟨hcounts, hpool, hmessage⟩ | ⟨hcounts, n, hn, hpool, hmessage⟩
    · exact .inl ⟨fun hat => hcounts hat.2, hpool, by rw [hmessage], by rw [hmessage]⟩
    · exact .inr (.inl ⟨⟨htype, hcounts⟩, hpool, by rw [hmessage], by rw [hmessage]⟩)
    · exact .inr (.inr ⟨⟨htype, hcounts⟩, n, hn, hpool, by rw [hmessage], by rw [hmessage]⟩)
  · subst h
    exact .inl ⟨fun hat => htype hat.1, process_block_other htype _ _ _⟩

end blocks

/-! ## The codec over its whole life -/

def RFX_MESSAGE.given (message : RFX_MESSAGE) : List Nat :=
  message.tiles.take message.num_tiles

/-- The codec between two calls, or inside of `rfx_process_message`, and the messages that are not
freed yet. -/
inductive System
  | idle (context : RFX_CONTEXT) (live : List RFX_MESSAGE)
  | busy (m : Memory) (size : Int) (parse : Parse) (live : List RFX_MESSAGE)

namespace System

def pool : System → RFX_POOL
  | idle context _ => context.pool
  | busy _ _ parse _ => parse.context.pool

def messages : System → List RFX_MESSAGE
  | idle _ live => live
  | busy _ _ parse live => parse.message :: live

/-- The tiles that will come back. -/
def owned (σ : System) : List Nat :=
  σ.messages.flatMap RFX_MESSAGE.given

/-- Every tile that was ever allocated is in the pool or with one message. -/
def Conserved (σ : System) : Prop :=
  Partition σ.pool σ.owned

end System

/-- A call with any bytes, the turns of its loop, its return, and the release of a message. -/
inductive Step : System → System → Prop
  | call (context : RFX_CONTEXT) (live : List RFX_MESSAGE) (m : Memory) (length : Nat) :
    Step (.idle context live) (.busy m (sint32 length) ⟨0, context, rfx_message_new⟩ live)
  | turn {m : Memory} {size : Int} {s s' : Parse} (live : List RFX_MESSAGE)
    (hsize : size - s.p > 6) (hturn : process_turn m s = some s') :
    Step (.busy m size s live) (.busy m size s' live)
  | stop {m : Memory} {size : Int} {s : Parse} (live : List RFX_MESSAGE)
    (hsize : size - s.p > 6) (hturn : process_turn m s = none) :
    Step (.busy m size s live) (.idle s.context (s.message :: live))
  | finish {m : Memory} {size : Int} {s : Parse} (live : List RFX_MESSAGE)
    (hsize : ¬ size - s.p > 6) :
    Step (.busy m size s live) (.idle s.context (s.message :: live))
  | free (context : RFX_CONTEXT) (before : List RFX_MESSAGE) (message : RFX_MESSAGE)
    (after : List RFX_MESSAGE) :
    Step (.idle context (before ++ message :: after))
      (.idle (rfx_message_free context message) (before ++ after))

/-- The runs of a new codec whose steps all start in a state with property `good`. -/
inductive RunOf (good : System → Prop) : System → Prop
  | start (heap : Nat → RFX_TILE) (behind_quants : Nat → Nat) (before_buffers : Nat → Pixel) :
    RunOf good (.idle (rfx_context_new heap behind_quants before_buffers) [])
  | step {σ σ' : System} (hrun : RunOf good σ) (hgood : good σ) (hstep : Step σ σ') :
    RunOf good σ'

/-- If the next turn is about a tileset block, the message has no tiles yet. -/
def OneTileset : System → Prop
  | .idle _ _ => True
  | .busy m size s _ =>
    size - s.p > 6 → uint32_at m (s.p + 2) ≠ 0 → AtTileset m s → s.message.tiles = []

/-- Each message knows how many tiles it has, and none is lost. -/
structure Invariant (σ : System) : Prop where
  counted : ∀ message ∈ σ.messages, message.tiles.length = message.num_tiles
  conserved : σ.Conserved

theorem given_counted {message : RFX_MESSAGE} (h : message.tiles.length = message.num_tiles) :
    message.given = message.tiles := by
  unfold RFX_MESSAGE.given
  rw [← h, take_length]

theorem Partition.length {pool : RFX_POOL} {owned : List Nat} (h : Partition pool owned) :
    pool.tiles.length + owned.length = pool.allocated := by
  have hlength := List.Perm.length_eq h
  rwa [length_append, length_range] at hlength

theorem process_turn.length {m : Memory} {s s' : Parse} (h : process_turn m s = some s') :
    uint32_at m (s.p + 2) ≠ 0 := by
  intro hzero
  unfold process_turn at h
  rw [if_pos hzero] at h
  exact absurd h (by simp)

section turn

variable {m : Memory} {size : Int} {s s' : Parse} {live : List RFX_MESSAGE}

theorem Invariant.partition (hinv : Invariant (.busy m size s live)) :
    Partition s.context.pool (s.message.tiles ++ live.flatMap RFX_MESSAGE.given) := by
  have hconserved := hinv.conserved
  unfold System.Conserved System.owned System.messages at hconserved
  rwa [flatMap_cons, given_counted (hinv.counted s.message mem_cons_self)] at hconserved

theorem turn_keeps (h : process_turn m s = some s') (hinv : Invariant (.busy m size s live))
    (hfirst : AtTileset m s → s.message.tiles = []) : Invariant (.busy m size s' live) := by
  have hcounted := hinv.counted s.message mem_cons_self
  have howned := hinv.partition
  -- It is enough to look at the tiles of the message and at the pool.
  have hback : s'.message.tiles.length = s'.message.num_tiles →
      Partition s'.context.pool (s'.message.tiles ++ live.flatMap RFX_MESSAGE.given) →
      Invariant (.busy m size s' live) := by
    intro hcounted' hpartition
    refine ⟨?_, ?_⟩
    · intro message hmem
      rcases mem_cons.mp hmem with rfl | hlive
      · exact hcounted'
      · exact hinv.counted message (mem_cons_of_mem _ hlive)
    · unfold System.Conserved System.owned System.messages
      rwa [flatMap_cons, given_counted hcounted']
  rcases process_turn.inv h with ⟨-, hpool, htiles, hnum⟩ | ⟨hat, hpool, htiles, hnum⟩ |
    ⟨hat, n, -, hpool, htiles, hnum⟩
  · apply hback
    · rw [htiles, hnum, hcounted]
    · rw [htiles, hpool.partition]
      exact howned
  · apply hback
    · rw [htiles, hnum, hfirst hat, length_nil]
    · rw [htiles, hpool.partition]
      exact howned
  · rw [hfirst hat, nil_append] at howned
    obtain ⟨hpartition, hlength⟩ := rfx_pool_get_tiles.spec n howned
    apply hback
    · rw [htiles, hnum, hlength]
    · rw [htiles, hpool.partition]
      exact hpartition

theorem turn_loses (h : process_turn m s = some s') (hinv : Invariant (.busy m size s live))
    (hat : AtTileset m s) (htiles : s.message.tiles ≠ []) :
    ¬ (System.busy m size s' live).Conserved := by
  have hpos : 0 < s.message.tiles.length := length_pos_of_ne_nil htiles
  have howned := hinv.partition
  intro hconserved
  have hnow : Partition s'.context.pool (s'.message.given ++ live.flatMap RFX_MESSAGE.given) := by
    unfold System.Conserved System.owned System.messages at hconserved
    rwa [flatMap_cons] at hconserved
  rcases process_turn.inv h with ⟨hnot, -⟩ | ⟨-, hpool, htiles', hnum⟩ |
    ⟨-, n, -, hpool, htiles', hnum⟩
  · exact hnot hat
  · have hgiven : s'.message.given = [] := by
      unfold RFX_MESSAGE.given
      rw [hnum, take_zero]
    rw [hgiven, nil_append, hpool.partition] at hnow
    have hbefore := howned.length
    have hafter := hnow.length
    rw [length_append] at hbefore
    omega
  · obtain ⟨hpartition, hlength⟩ := rfx_pool_get_tiles.spec n howned
    have hgiven : s'.message.given = (rfx_pool_get_tiles n s.context.pool).1 := by
      unfold RFX_MESSAGE.given
      rw [hnum, htiles', take_of_length_le (Nat.le_of_eq hlength)]
    rw [hgiven, hpool.partition] at hnow
    have hbefore := hpartition.length
    have hafter := hnow.length
    simp only [length_append] at hbefore hafter
    omega

end turn

theorem return_keeps {m : Memory} {size : Int} {s : Parse} {live : List RFX_MESSAGE}
    (hinv : Invariant (.busy m size s live)) : Invariant (.idle s.context (s.message :: live)) :=
  ⟨hinv.counted, hinv.conserved⟩

theorem free_keeps {context : RFX_CONTEXT} {before after : List RFX_MESSAGE}
    {message : RFX_MESSAGE} (hinv : Invariant (.idle context (before ++ message :: after))) :
    Invariant (.idle (rfx_message_free context message) (before ++ after)) := by
  refine ⟨?_, ?_⟩
  · intro other hmem
    apply hinv.counted other
    rcases mem_append.mp hmem with hbefore | hafter
    · exact mem_append_left _ hbefore
    · exact mem_append_right _ (mem_cons_of_mem _ hafter)
  · have hconserved := hinv.conserved
    unfold System.Conserved System.owned System.messages at hconserved ⊢
    apply rfx_pool_put_tiles.spec message.given
    refine List.Perm.trans (List.Perm.append_left _ ?_) hconserved
    rw [flatMap_append, flatMap_append, flatMap_cons]
    exact perm_append_comm_assoc _ _ _

theorem step_keeps {σ σ' : System} (hinv : Invariant σ) (hstep : Step σ σ') :
    (OneTileset σ → Invariant σ') ∧ (¬ OneTileset σ → ¬ σ'.Conserved) := by
  cases hstep with
  | call context live m length =>
    refine ⟨fun _ => ⟨?_, hinv.conserved⟩, fun hnot => absurd trivial hnot⟩
    exact forall_mem_cons.mpr ⟨rfl, hinv.counted⟩
  | turn live hsize hturn =>
    refine ⟨fun hone => turn_keeps hturn hinv (hone hsize (process_turn.length hturn)), ?_⟩
    intro hnot
    unfold OneTileset at hnot
    push Not at hnot
    obtain ⟨-, -, hat, htiles⟩ := hnot
    exact turn_loses hturn hinv hat htiles
  | stop live hsize hturn =>
    refine ⟨fun _ => return_keeps hinv, fun hnot => absurd ?_ hnot⟩
    intro _ hlength
    unfold process_turn at hturn
    rw [if_neg hlength] at hturn
    exact absurd hturn (Option.some_ne_none _)
  | finish live hsize =>
    exact ⟨fun _ => return_keeps hinv, fun hnot => absurd (fun h => absurd h hsize) hnot⟩
  | free context before message after =>
    exact ⟨fun _ => free_keeps hinv, fun hnot => absurd trivial hnot⟩

theorem run_invariant {σ : System} (hrun : RunOf OneTileset σ) : Invariant σ := by
  induction hrun with
  | start => exact ⟨forall_mem_nil _, List.Perm.refl _⟩
  | step _ hgood hstep ih => exact (step_keeps ih hstep).1 hgood

theorem process_loop_run {m : Memory} {size : Int} {live : List RFX_MESSAGE}
    {good : System → Prop} (hall : ∀ σ, good σ) {turns : Nat} {s final : Parse}
    (hrun : RunOf good (.busy m size s live)) (h : process_loop m size turns s = some final) :
    RunOf good (.idle final.context (final.message :: live)) := by
  induction turns generalizing s with
  | zero => exact absurd h (by simp [process_loop])
  | succ turns ih =>
    unfold process_loop at h
    by_cases hsize : size - s.p > 6
    · rw [if_pos hsize] at h
      cases hturn : process_turn m s with
      | none =>
        rw [hturn] at h
        obtain rfl := Option.some.inj h
        exact .step hrun (hall _) (.stop live hsize hturn)
      | some s' =>
        rw [hturn] at h
        exact ih (.step hrun (hall _) (.turn live hsize hturn)) h
    · rw [if_neg hsize] at h
      obtain rfl := Option.some.inj h
      exact .step hrun (hall _) (.finish live hsize)

/-- No tile is lost or owned twice as long as no message reads a second tileset over its tiles, and
the first time a message does so, tiles are lost. -/
theorem tiles_conserved_until_a_second_tileset (σ : System) (hrun : RunOf OneTileset σ) :
    σ.Conserved ∧ ∀ σ', Step σ σ' → (σ'.Conserved ↔ OneTileset σ) := by
  refine ⟨(run_invariant hrun).conserved, ?_⟩
  intro σ' hstep
  obtain ⟨hkeeps, hloses⟩ := step_keeps (run_invariant hrun) hstep
  refine ⟨fun hconserved => ?_, fun hone => (hkeeps hone).conserved⟩
  by_contra hnot
  exact hloses hnot hconserved

/-- A tileset block for one tile, which has no data. -/
def one_tile : List UInt8 :=
  [0xC7, 0xCC, 46, 0, 0, 0, 1, 0] ++
    [0xC2, 0xCA, 0, 0, 0, 0, 1, 0x40, 1, 0, 19, 0, 0, 0] ++ [0x66, 0x66, 0x66, 0x66, 0x66] ++
    [0xC3, 0xCA, 19, 0, 0, 0] ++ List.replicate 13 0

/-- The message with this block is read, returned with its tile and freed, and the tile is back in
the pool. -/
theorem one_tileset_conserves_tiles :
    ∃ s, process_turn (memory_of one_tile) ⟨0, quietContext, rfx_message_new⟩ = some s ∧
      s.p = 46 ∧ s.message.tiles = [0] ∧ s.context.pool.tiles = [] ∧
      (System.idle s.context [s.message]).Conserved ∧
      (rfx_message_free s.context s.message).pool.tiles = [0] ∧
      (System.idle (rfx_message_free s.context s.message) []).Conserved := by
  have hrun : (process_turn (memory_of one_tile) ⟨0, quietContext, rfx_message_new⟩).map
      (fun s => (s.p, s.message.tiles, s.context.pool.tiles,
        (rfx_message_free s.context s.message).pool.tiles)) = some (46, [0], [], [0]) := by
    rfl
  obtain ⟨s, hturn, hs⟩ := Option.map_eq_some_iff.mp hrun
  obtain ⟨hp, htiles, hpool, hfreed⟩ : s.p = 46 ∧ s.message.tiles = [0] ∧
      s.context.pool.tiles = [] ∧ (rfx_message_free s.context s.message).pool.tiles = [0] := by
    simpa using hs
  have hnew : RunOf OneTileset (.idle quietContext []) := .start _ _ _
  have hcalled := hnew.step trivial (.call _ [] (memory_of one_tile) 46)
  have hread := hcalled.step (fun _ _ _ => rfl) (.turn [] (by decide) hturn)
  -- nothing is left behind the block, so the call returns without another one
  have hreturned := hread.step (fun hsize _ _ => absurd hsize (by rw [hp]; decide))
    (.finish [] (by rw [hp]; decide))
  have hfree := hreturned.step trivial (.free s.context [] s.message [])
  exact ⟨s, hturn, hp, htiles, hpool, (tiles_conserved_until_a_second_tileset _ hreturned).1,
    hfreed, (tiles_conserved_until_a_second_tileset _ hfree).1⟩

/-- A tileset block for one tile, whose tile block has no known type. -/
def bad_tileset : List UInt8 :=
  [0xC7, 0xCC, 33, 0, 0, 0, 1, 0] ++
    [0xC2, 0xCA, 0, 0, 0, 0, 1, 0x40, 1, 0, 6, 0, 0, 0] ++ [0x66, 0x66, 0x66, 0x66, 0x66] ++
    [0, 0, 6, 0, 0, 0]

/-- A message with two of these blocks takes two tiles and gives one back. -/
theorem second_tileset_loses_a_tile :
    ∃ final, rfx_process_message (memory_of (bad_tileset ++ bad_tileset)) 3 66
        quietContext = some final ∧
      (rfx_message_free final.context final.message).pool.tiles = [1] ∧
      (rfx_message_free final.context final.message).pool.allocated = 2 ∧
      RunOf (fun _ => True) (.idle (rfx_message_free final.context final.message) []) ∧
      ¬ (System.idle (rfx_message_free final.context final.message) []).Conserved := by
  have htiles : (rfx_process_message (memory_of (bad_tileset ++ bad_tileset)) 3 66
      quietContext).map
      (fun final => ((rfx_message_free final.context final.message).pool.tiles,
        (rfx_message_free final.context final.message).pool.allocated)) = some ([1], 2) := by
    rfl
  obtain ⟨final, hfinal, hpair⟩ := Option.map_eq_some_iff.mp htiles
  obtain ⟨hpool, hallocated⟩ := Prod.mk.inj hpair
  refine ⟨final, hfinal, hpool, hallocated, ?_, ?_⟩
  · have hstart : RunOf (fun _ => True) (.idle quietContext []) := .start _ _ _
    have hdone := process_loop_run (fun _ => trivial)
      (hstart.step trivial (.call _ _ _ 66)) hfinal
    exact hdone.step trivial (.free final.context [] final.message [])
  · intro hconserved
    have hlength := hconserved.length
    rw [System.pool, hpool, hallocated] at hlength
    simp [System.owned, System.messages] at hlength

end neutrinordp.rfx
